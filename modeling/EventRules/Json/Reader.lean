/-
**Reading JSON documents.**

A document is read up to the end of its first value; what follows is looked at only where nothing
may follow.  A byte that is
no text is read as the replacement character, which is allowed inside texts only, and half of a
surrogate pair by itself is read as the replacement character, too.

Main definitions:

* `Json.readNumber`, `Json.readText` — numbers and texts;
* `Json.readValue` — a value;
* `Json.read`, `Json.readWhole` — the first value of a document, and the only one.
-/

import EventRules.Json.Value
import EventRules.Numeral.Integer
import EventRules.Text.Glyph
import EventRules.Text.Hexadecimal
import EventRules.Text.Search

set_option relaxedAutoImplicit false
set_option autoImplicit false

namespace EventRules.Json

def isGap (c : Char) : Bool :=
  c == ' ' || c == '\t' || c == '\n' || c == '\r'

def skipGap (cs : List Char) : List Char :=
  cs.dropWhile isGap

/-- The fault of a document at a place where something else is wanted. -/
def unexpected : List Char → Fault
  | [] => .ended
  | c :: _ => .character c

/-! ### Numbers -/

/-- At least one digit, and what follows. -/
def someDigits (cs : List Char) : Except Fault (List Char × List Char) :=
  match cs.takeWhile Numeral.isDigit with
  | [] => .error (unexpected cs)
  | ds => .ok (ds, cs.dropWhile Numeral.isDigit)

/-- The digits before the point: a zero by itself, or digits that start with none. -/
def wholeDigits : List Char → Except Fault (List Char × List Char)
  | '0' :: cs => .ok (['0'], cs)
  | cs => someDigits cs

/-- The digits after the point, if there is one. -/
def fractionDigits : List Char → Except Fault (List Char × List Char)
  | '.' :: cs => someDigits cs
  | cs => .ok ([], cs)

/-- The exponent, if there is one. -/
def exponent (cs : List Char) : Except Fault (Int × List Char) :=
  match cs with
  | e :: rest =>
      if e = 'e' || e = 'E' then do
        match rest with
        | '-' :: more =>
            let (ds, rest') ← someDigits more
            return (-(Numeral.digitsValue ds : Int), rest')
        | '+' :: more =>
            let (ds, rest') ← someDigits more
            return ((Numeral.digitsValue ds : Int), rest')
        | more =>
            let (ds, rest') ← someDigits more
            return ((Numeral.digitsValue ds : Int), rest')
      else .ok (0, cs)
  | [] => .ok (0, cs)

/-- **A number.** -/
def readNumber (cs : List Char) : Except Fault (Json × List Char) := do
  let negative := cs.head? == some '-'
  let (whole, rest) ← wholeDigits (if negative then cs.drop 1 else cs)
  let (fraction, rest) ← fractionDigits rest
  let (e, rest) ← exponent rest
  let digits := Numeral.digitsValue (whole ++ fraction)
  return (.number ⟨negative, digits, e - fraction.length⟩, rest)

/-! ### Texts -/

def escapeOf? (c : Char) : Option Char :=
  match c with
  | '"' => some '"'
  | '\\' => some '\\'
  | '/' => some '/'
  | 'b' => some (Char.ofNat 8)
  | 'f' => some (Char.ofNat 12)
  | 'n' => some '\n'
  | 'r' => some '\r'
  | 't' => some '\t'
  | _ => none

inductive Mode where
  | plain
  | escape
  | code (digits value : Nat)

/-- The rest of a text as code units, in reverse order.  A character beyond the first plane is a
single unit here, and only codes give surrogates. -/
def unitsFrom : Mode → List Nat → List Char → Except Fault (List Nat × List Char)
  | _, _, [] => .error .ended
  | .plain, units, c :: cs =>
      if c = '"' then .ok (units, cs)
      else if c = '\\' then unitsFrom .escape units cs
      else if c.toNat < 0x20 then .error (.character c)
      else unitsFrom .plain (c.toNat :: units) cs
  | .escape, units, c :: cs =>
      match escapeOf? c with
      | some d => unitsFrom .plain (d.toNat :: units) cs
      | none => if c = 'u' then unitsFrom (.code 4 0) units cs else .error (.character c)
  | .code digits value, units, c :: cs =>
      match Text.hexDigit? c with
      | none => .error (.character c)
      | some d =>
          if digits ≤ 1 then unitsFrom .plain ((value * 16 + d) :: units) cs
          else unitsFrom (.code (digits - 1) (value * 16 + d)) units cs

/-- The characters of units: surrogates form pairs, and one by itself is replaced. -/
def ofUnits : List Nat → List Char
  | [] => []
  | [u] => [if Utf16.isHigh u || Utf16.isLow u then replacement else Char.ofNat u]
  | u :: v :: rest =>
      if Utf16.isHigh u && Utf16.isLow v then Utf16.pair u v :: ofUnits rest
      else
        (if Utf16.isHigh u || Utf16.isLow u then replacement else Char.ofNat u) ::
          ofUnits (v :: rest)

/-- **A text**, from behind its first quote. -/
def readText (cs : List Char) : Except Fault (String × List Char) := do
  let (units, rest) ← unitsFrom .plain [] cs
  return (String.ofList (ofUnits units.reverse), rest)

/-! ### Values -/

def readWord (word : String) (value : Json) (cs : List Char) : Except Fault (Json × List Char) :=
  match Text.strip? word.toList cs with
  | some rest => .ok (value, rest)
  | none =>
      .error (unexpected (cs.drop ((cs.zip word.toList).takeWhile fun p => p.1 == p.2).length))

mutual

/-- **A value**, at its first character. -/
def readValue : Nat → List Char → Except Fault (Json × List Char)
  | 0, cs => .error (unexpected cs)
  | fuel + 1, cs =>
      match cs with
      | [] => .error .ended
      | c :: rest =>
          if c = '"' then do
            let (s, rest') ← readText rest
            return (.string s, rest')
          else if c = '[' then
            match skipGap rest with
            | ']' :: rest' => .ok (.array [], rest')
            | rest' => do
                let (items, rest'') ← readItems fuel rest'
                return (.array items, rest'')
          else if c = '\x7b' then
            match skipGap rest with
            | '\x7d' :: rest' => .ok (.object [], rest')
            | rest' => do
                let (fields, rest'') ← readFields fuel rest'
                return (.object fields, rest'')
          else if c = 't' then readWord "true" (.bool true) cs
          else if c = 'f' then readWord "false" (.bool false) cs
          else if c = 'n' then readWord "null" .null cs
          else readNumber cs

/-- The items of a list up to its bracket, at the first character of the next one. -/
def readItems : Nat → List Char → Except Fault (List Json × List Char)
  | 0, cs => .error (unexpected cs)
  | fuel + 1, cs => do
      let (item, rest) ← readValue fuel cs
      match skipGap rest with
      | ',' :: rest' =>
          let (items, rest'') ← readItems fuel (skipGap rest')
          return (item :: items, rest'')
      | ']' :: rest' => return ([item], rest')
      | rest' => .error (unexpected rest')

/-- The fields of an object up to its bracket, at the first character of the next one. -/
def readFields : Nat → List Char → Except Fault (List (String × Json) × List Char)
  | 0, cs => .error (unexpected cs)
  | fuel + 1, cs => do
      match cs with
      | '"' :: rest =>
          let (name, rest) ← readText rest
          match skipGap rest with
          | ':' :: rest =>
              let (value, rest) ← readValue fuel (skipGap rest)
              match skipGap rest with
              | ',' :: rest' =>
                  let (fields, rest'') ← readFields fuel (skipGap rest')
                  return ((name, value) :: fields, rest'')
              | '\x7d' :: rest' => return ([(name, value)], rest')
              | rest' => .error (unexpected rest')
          | rest => .error (unexpected rest)
      | _ => .error (unexpected cs)

end

def depthLimit : Nat := 10000

/-- The first value of a document, and what follows it. -/
def readFront (doc : Bytes) : Except Fault (Json × List Char) := do
  let cs := skipGap (Utf8.text doc).toList
  let (j, rest) ← readValue (2 * cs.length + 2) cs
  if depthLimit < j.depth then .error .depth else return (j, rest)

/-- **The first value of a document**, whatever follows it. -/
def read (doc : Bytes) : Except Fault Json :=
  (readFront doc).map (·.1)

/-- **The value that is all of a document.** -/
def readWhole (doc : Bytes) : Except Fault Json := do
  let (j, rest) ← readFront doc
  match skipGap rest with
  | [] => return j
  | c :: _ => .error (.character c)

end EventRules.Json

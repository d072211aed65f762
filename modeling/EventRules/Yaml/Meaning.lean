/-
**What a plain scalar means.**

A scalar without quotes may stand for nothing, for a truth value, for a number or for a date;
otherwise it is a text.  Whole numbers may be written in several bases, underscores among digits are
passed over, and a number with a point or an exponent is one of double precision.

Main definitions:

* `Yaml.Meaning`, `Yaml.meaning` — the meaning of a plain scalar;
* `Yaml.Meaning.tag` — the name of its kind;
* `Yaml.Meaning.whole?` — the whole number that is taken for it.
-/

import EventRules.Numeral.Double
import EventRules.Numeral.Integer
import EventRules.Text.Hexadecimal

set_option relaxedAutoImplicit false
set_option autoImplicit false

namespace EventRules.Yaml

/-- **The meaning of a plain scalar.** -/
inductive Meaning where
  | null
  | truth
  | whole (n : Int)
  | real (q : Rat)
  | infinite (negative : Bool)
  | notNumber
  | date
  | merge
  | text
  deriving DecidableEq, Repr

def Meaning.tag : Meaning → String
  | .null => "!!null"
  | .truth => "!!bool"
  | .whole _ => "!!int"
  | .real _ => "!!float"
  | .infinite _ => "!!float"
  | .notNumber => "!!float"
  | .date => "!!timestamp"
  | .merge => "!!merge"
  | .text => "!!str"

/-! ### Whole numbers -/

/-- The number that digits write in a base; nothing if one of them is no digit of it. -/
def digitsIn? (base : Nat) (cs : List Char) : Option Nat :=
  cs.foldlM (fun n c => do
    let d ← Text.hexDigit? c
    if d < base then some (n * base + d) else none) 0

/-- A whole number without a sign: in base ten, or in another base behind a zero and its letter, or
in base eight behind a zero alone. -/
def natural? : List Char → Option Nat
  | [] => none
  | '0' :: mark :: d :: ds =>
      if mark.toLower = 'x' then digitsIn? 16 (d :: ds)
      else if mark.toLower = 'o' then digitsIn? 8 (d :: ds)
      else if mark.toLower = 'b' then digitsIn? 2 (d :: ds)
      else digitsIn? 8 (mark :: d :: ds)
  | '0' :: ds => digitsIn? 8 ds
  | ds => digitsIn? 10 ds

def greatestNatural : Int := 18446744073709551615

/-- A whole number of 64 bits: with or without a sign if it is written without one. -/
def integer? (cs : List Char) : Option Int :=
  let limited (least greatest : Int) (n : Int) : Option Int :=
    if least ≤ n && n ≤ greatest then some n else none
  match cs with
  | '-' :: ds => (natural? ds).bind fun n => limited Numeral.least Numeral.greatest (-(n : Int))
  | '+' :: ds => (natural? ds).bind fun n => limited Numeral.least Numeral.greatest n
  | ds => (natural? ds).bind fun n => limited 0 greatestNatural n

/-! ### Other numbers -/

/-- The digits at the front, and what follows them. -/
def spanDigits (cs : List Char) : List Char × List Char :=
  (cs.takeWhile Numeral.isDigit, cs.dropWhile Numeral.isDigit)

def signedDigits? : List Char → Option Int
  | '-' :: ds => if ds.isEmpty || !ds.all Numeral.isDigit then none
      else some (-(Numeral.digitsValue ds : Int))
  | '+' :: ds => if ds.isEmpty || !ds.all Numeral.isDigit then none
      else some (Numeral.digitsValue ds)
  | ds => if ds.isEmpty || !ds.all Numeral.isDigit then none
      else some (Numeral.digitsValue ds)

def exponent? : List Char → Option Int
  | [] => some 0
  | e :: rest => if e = 'e' || e = 'E' then signedDigits? rest else none

/-- The digits behind the point, if there is one, and what follows. -/
def fraction (cs : List Char) : List Char × List Char :=
  match cs with
  | '.' :: ds => spanDigits ds
  | _ => ([], cs)

def decimal? (cs : List Char) : Option Numeral.Written :=
  let (whole, rest) := spanDigits cs
  let (places, rest') := fraction rest
  if whole.isEmpty && places.isEmpty then none
  else
    (exponent? rest').map fun e =>
      { digits := Numeral.digitsValue (whole ++ places), exponent := e - places.length }

/-- A number in decimal notation with or without a sign, in double precision. -/
def double? (cs : List Char) : Option Rat :=
  match cs with
  | '-' :: ds => (decimal? ds).bind fun w => w.double?.map fun q => -q
  | '+' :: ds => (decimal? ds).bind Numeral.Written.double?
  | ds => (decimal? ds).bind Numeral.Written.double?

/-- Does every underscore stand between two digits?  `afterDigit` tells what stands before. -/
def underscoresFit : Bool → List Char → Bool
  | _, [] => true
  | afterDigit, '_' :: c :: cs => afterDigit && Numeral.isDigit c && underscoresFit true cs
  | _, ['_'] => false
  | _, c :: cs => underscoresFit (Numeral.isDigit c) cs

/-! ### Dates -/

def daysIn (year month : Nat) : Nat :=
  if month = 2 then
    if year % 4 = 0 && (year % 100 ≠ 0 || year % 400 = 0) then 29 else 28
  else if month = 4 || month = 6 || month = 9 || month = 11 then 30
  else 31

/-- A date: a year of four digits, a month and a day, with hyphens between them. -/
def isDate (cs : List Char) : Bool :=
  match spanDigits cs with
  | (year, '-' :: rest) =>
      match spanDigits rest with
      | (month, '-' :: rest') =>
          let (day, after) := spanDigits rest'
          let m := Numeral.digitsValue month
          let d := Numeral.digitsValue day
          year.length == 4 && after.isEmpty && month.length ≤ 2 && day.length ≤ 2 &&
            1 ≤ m && m ≤ 12 && 1 ≤ d && decide (d ≤ daysIn (Numeral.digitsValue year) m)
      | _ => false
  | _ => false

/-! ### Meanings -/

def words : List (String × Meaning) :=
  [("", .null), ("~", .null), ("null", .null), ("Null", .null), ("NULL", .null),
    ("true", .truth), ("True", .truth), ("TRUE", .truth),
    ("false", .truth), ("False", .truth), ("FALSE", .truth),
    (".nan", .notNumber), (".NaN", .notNumber), (".NAN", .notNumber),
    (".inf", .infinite false), (".Inf", .infinite false), (".INF", .infinite false),
    ("+.inf", .infinite false), ("+.Inf", .infinite false), ("+.INF", .infinite false),
    ("-.inf", .infinite true), ("-.Inf", .infinite true), ("-.INF", .infinite true),
    ("<<", .merge)]

/-- The number that characters write, if they write one. -/
def number (cs : List Char) : Meaning :=
  match integer? cs with
  | some n => .whole n
  | none => (double? cs).elim .text .real

/-- **The meaning of a plain scalar.**  What starts with a digit or a sign may be a number with
underscores anywhere; what starts with a point may be one with underscores between digits. -/
def meaning (text : String) : Meaning :=
  let cs := text.toList
  match words.lookup text with
  | some m => m
  | none =>
      match cs with
      | [] => .null
      | '.' :: _ =>
          if underscoresFit false cs then
            (double? (cs.filter (· != '_'))).elim .text .real
          else .text
      | c :: _ =>
          if isDate cs then .date
          else if Numeral.isDigit c || c == '+' || c == '-' then number (cs.filter (· != '_'))
          else .text

/-- A number of double precision cut to a whole one.  What is too small to be a number of 64 bits
becomes the least of those, and so does what is just too great. -/
def cut? (q : Rat) : Option Int :=
  if (Nat.pow 2 63 : Rat) < q then none
  else
    let n := if q < 0 then q.ceil else q.floor
    some (if Numeral.least ≤ n && n ≤ Numeral.greatest then n else Numeral.least)

/-- **The whole number that is taken for a meaning.** -/
def Meaning.whole? : Meaning → Option Int
  | .whole n => if n ≤ Numeral.greatest then some n else none
  | .real q => cut? q
  | .infinite true => some Numeral.least
  | _ => none

end EventRules.Yaml

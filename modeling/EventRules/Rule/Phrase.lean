/-
**Phrases in running text.**

Conditions are described in English.  A phrase is found in such a text in any letter case and with
any amount of blank space, line ends included, between its words.  A phrase need not end at the end
of a word.

Main definitions:

* `Phrase` — words and the gaps between them;
* `Phrase.length?` — how much of a text a phrase takes at its front;
* `Phrase.split?` — the text before and after the first occurrence.
-/

import EventRules.Text.Case

set_option relaxedAutoImplicit false
set_option autoImplicit false

namespace EventRules

open EventRules.Text (foldChar)

inductive PhrasePart where
  | word (letters : List Char)
  | gap
  deriving DecidableEq, Repr

/-- **A phrase**: words and gaps. -/
abbrev Phrase := List PhrasePart

namespace Phrase

def isGapChar (c : Char) : Bool :=
  c == ' ' || c == '\t' || c == '\n' || c == '\r' || c == Char.ofNat 0x0C

/-- How many characters a word takes at the front of a text, in any letter case. -/
def wordLength? : List Char → List Char → Option Nat
  | [], _ => some 0
  | w :: word, c :: cs => if foldChar c = w then (wordLength? word cs).map (· + 1) else none
  | _ :: _, [] => none

/-- How many characters of blank space there are at the front of a text. -/
def gapLength? (cs : List Char) : Option Nat :=
  match (cs.takeWhile isGapChar).length with
  | 0 => none
  | n + 1 => some (n + 1)

def partLength? : PhrasePart → List Char → Option Nat
  | .word letters, cs => wordLength? letters cs
  | .gap, cs => gapLength? cs

/-- **How many characters the phrase takes** at the front of a text. -/
def length? : Phrase → List Char → Option Nat
  | [], _ => some 0
  | part :: rest, cs =>
      match partLength? part cs with
      | some n => (length? rest (cs.drop n)).map (n + ·)
      | none => none

def split? (p : Phrase) : List Char → Option (List Char × List Char)
  | [] => (length? p []).map fun _ => ([], [])
  | c :: cs =>
      match length? p (c :: cs) with
      | some n => some ([], (c :: cs).drop n)
      | none => (split? p cs).map fun r => (c :: r.1, r.2)

def ofWords : List String → Phrase
  | [] => []
  | [w] => [.word w.toList]
  | w :: v :: rest => .word w.toList :: .gap :: ofWords (v :: rest)

end Phrase

end EventRules

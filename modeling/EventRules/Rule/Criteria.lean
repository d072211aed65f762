/-
**Conditions as text.**

The condition of a block comes as one sentence, such as `If a is equal to b and c is less than or
equal to d`.  It is divided into clauses at the words *and* and *or*.  Some comparators contain an
*or* themselves; these are protected first, by a marker that cannot be mistaken for the word, and
restored afterwards.

A word stands alone if there is no ASCII letter, digit or underscore next to it.  The clauses are
the stretches between the operators, each with the last operator before it; an operator without a
clause after it is dropped.

Main definitions:

* `Criteria.protect`, `Criteria.restore` — hiding the comparators' *or*, and undoing it;
* `Criteria.segments` — a text divided at its operators, nothing lost;
* `Criteria.fragments` — the non-blank pieces;
* `Criteria.split` — the clauses of a description.
-/

import EventRules.Rule.Phrase
import EventRules.Text.Entity
import EventRules.Text.Search
import EventRules.Text.Space

set_option relaxedAutoImplicit false
set_option autoImplicit false

namespace EventRules.Criteria

/-! ### Comparators that contain an operator -/

/-- A comparator with an *or* in it: what stands before and after that word. -/
structure Comparator where
  /-- The phrase before the word, with the gap before the word. -/
  before : Phrase
  /-- The phrase after the word, with the gap after the word. -/
  after : Phrase

/-- The comparators that contain an *or*, in the order in which they are protected. -/
def comparators : List Comparator :=
  [⟨Phrase.ofWords ["less", "than"] ++ [.gap], .gap :: Phrase.ofWords ["equal", "to"]⟩,
    ⟨Phrase.ofWords ["greater", "than"] ++ [.gap], .gap :: Phrase.ofWords ["equal", "to"]⟩,
    ⟨Phrase.ofWords ["equal", "to"] ++ [.gap], .gap :: Phrase.ofWords ["empty"]⟩]

def orWord : List Char := ['o', 'r']

def marker : List Char := "__OR__".toList

/-- How many characters a comparator takes at the front of a text, before and after its *or*. -/
def Comparator.lengths? (k : Comparator) (cs : List Char) : Option (Nat × Nat) :=
  match Phrase.length? k.before cs with
  | none => none
  | some n =>
      match Phrase.wordLength? orWord (cs.drop n) with
      | none => none
      | some w => (Phrase.length? k.after (cs.drop (n + w))).map (n, ·)

/-- Protecting with `skip` characters still to be passed over. -/
def Comparator.protectFrom (k : Comparator) : Nat → List Char → List Char
  | _, [] => []
  | skip + 1, _ :: cs => k.protectFrom skip cs
  | 0, c :: cs =>
      match k.lengths? (c :: cs) with
      | some (n, m) =>
          (c :: cs).take n ++ marker ++ ((c :: cs).drop (n + orWord.length)).take m ++
            k.protectFrom (n + orWord.length + m - 1) cs
      | none => c :: k.protectFrom 0 cs

/-- Every occurrence of a comparator with its *or* replaced by the marker. -/
def Comparator.protect (k : Comparator) (cs : List Char) : List Char :=
  k.protectFrom 0 cs

def protectChars (cs : List Char) : List Char :=
  comparators.foldl (fun cs k => k.protect cs) cs

def restoreChars (cs : List Char) : List Char :=
  Text.replaceChars marker orWord cs

/-- **A text with the comparators' *or* hidden.** -/
def protect (s : String) : String :=
  String.ofList (protectChars s.toList)

/-- **A text with hidden words restored.** -/
def restore (s : String) : String :=
  String.ofList (restoreChars s.toList)

/-! ### Operators -/

/-- The characters that keep a word from standing alone. -/
def isWordChar (c : Char) : Bool :=
  c.isAlphanum || c == '_'

def startsInWord (cs : List Char) : Bool :=
  (cs.head?.map isWordChar).getD false

/-- How many characters the operator at the front of a text takes; `inWord` says that the
character before is part of a word. -/
def operatorLength? (inWord : Bool) (cs : List Char) : Option Nat :=
  if inWord then none
  else
    match (Phrase.wordLength? ['a', 'n', 'd'] cs).or (Phrase.wordLength? orWord cs) with
    | some n => if startsInWord (cs.drop n) then none else some n
    | none => none

/-- A text divided at its operators: the stretch before the first one, and each operator with the
stretch after it.  `skip` characters of an operator are still to be passed over. -/
def segments : Bool → Nat → List Char → List Char × List (List Char × List Char)
  | _, _, [] => ([], [])
  | _, skip + 1, c :: cs => segments (isWordChar c) skip cs
  | inWord, 0, c :: cs =>
      match operatorLength? inWord (c :: cs) with
      | some n =>
          let (stretch, rest) := segments (isWordChar c) (n - 1) cs
          ([], ((c :: cs).take n, stretch) :: rest)
      | none =>
          let (stretch, rest) := segments (isWordChar c) 0 cs
          (c :: stretch, rest)

inductive Fragment where
  | operator (text : List Char)
  /-- A stretch between operators. -/
  | stretch (text : List Char)
  deriving DecidableEq, Repr

def Fragment.text : Fragment → List Char
  | .operator t => t
  | .stretch t => t

/-- A piece of text as it is kept: with the comparators restored and without outer blanks. -/
def tidy (cs : List Char) : List Char :=
  Text.trimChars (restoreChars cs)

/-- The fragment of a stretch, unless it is blank. -/
def stretchFragment (cs : List Char) : List Fragment :=
  if (tidy cs).isEmpty then [] else [.stretch (tidy cs)]

/-- **The non-blank pieces** of a protected text, in order. -/
def fragments (cs : List Char) : List Fragment :=
  let (first, rest) := segments false 0 cs
  stretchFragment first ++
    rest.flatMap fun r => .operator (tidy r.1) :: stretchFragment r.2

/-! ### Clauses -/

/-- The clauses of a list of fragments, `pending` being the last operator before them. -/
def clausesFrom : Option (List Char) → List Fragment → List (List Char)
  | _, [] => []
  | _, .operator t :: rest => clausesFrom (some t) rest
  | some op, .stretch t :: rest => (op ++ ' ' :: t) :: clausesFrom none rest
  | none, .stretch t :: rest => t :: clausesFrom none rest

/-- **The clauses of a description.** -/
def split (description : String) : List String :=
  (clausesFrom none (fragments (protectChars (Text.unescapeChars description.toList)))).map
    String.ofList

@[simp] theorem segments_nil (inWord : Bool) (n : Nat) : segments inWord n [] = ([], []) := by
  cases n <;> rfl

end EventRules.Criteria

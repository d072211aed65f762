/-
**Suggestions for template names.**

A search text is compared with the names of templates in upper case.  A name that is the text
scores one, one that starts with it 19/20, one that contains it 9/10.  Every other name scores by
edit distance: one minus the distance, counted in characters, over the longer length, counted in
UTF-8 bytes.  Names that score at least one half are suggested, best first and equal scores in
order of their names.

The ranking goes by the exact ratios.  A score that is shown has been computed in floating point;
for names of any practical length this changes the shown digits only.

Main definitions:

* `editDistance` — the least number of insertions, deletions and substitutions;
* `Similarity`, `Similarity.score` — how alike a text and a name are, exactly;
* `Similarity.shown` — the score as it is shown;
* `TemplateMatch`, `suggest` — the ranking.
-/

import EventRules.Text.Case
import EventRules.Text.Glyph
import EventRules.Text.Search
import EventRules.Text.Space
import EventRules.Numeral.Decimal

set_option relaxedAutoImplicit false
set_option autoImplicit false

namespace EventRules

/-! ### Edit distance -/

/-- The rest of a row of distances.  `upper` pairs each character with the distance above it,
`corner` is the distance above and before, `before` the distance just before. -/
def distanceRow (c : Char) : Nat → Nat → List (Char × Nat) → List Nat
  | _, _, [] => []
  | corner, before, (d, above) :: rest =>
      let here := min (min (before + 1) (above + 1)) (corner + if c = d then 0 else 1)
      here :: distanceRow c above here rest

def nextRow (ds : List Char) (row : List Nat) (c : Char) : List Nat :=
  match row with
  | [] => []
  | first :: rest => (first + 1) :: distanceRow c first (first + 1) (ds.zip rest)

/-- **The edit distance** of two lists of characters. -/
def editDistance (cs ds : List Char) : Nat :=
  ((cs.foldl (nextRow ds) (List.range (ds.length + 1))).getLast?).getD 0

/-! ### Similarity -/

/-- **How alike a search text and a name are.** -/
inductive Similarity where
  | same
  | beginning
  | inside
  /-- They differ by this many edits, the longer of them having this many bytes. -/
  | edits (distance longest : Nat)
  | unranked
  deriving DecidableEq, Repr

namespace Similarity

/-- The similarity of a text and a name, both in upper case. -/
def between (query name : String) : Similarity :=
  if query = name then .same
  else if Text.hasStart query name then .beginning
  else if Text.contains query name then .inside
  else .edits (editDistance query.toList name.toList) (max (Utf8.size query) (Utf8.size name))

/-- **The exact score.** -/
def score : Similarity → Rat
  | .same => 1
  | .beginning => 19 / 20
  | .inside => 9 / 10
  | .edits distance longest =>
      if longest ≤ distance then 0 else 1 - (distance : Rat) / longest
  | .unranked => 0

/-- The score as it is computed in floating point. -/
def shown : Similarity → Rat
  | .edits distance longest =>
      Numeral.nearestBinary (1 - Numeral.nearestBinary ((distance : Rat) / longest))
  | s => Numeral.nearestBinary s.score

end Similarity

/-! ### Ranking -/

structure TemplateMatch where
  name : String
  similarity : Similarity
  deriving DecidableEq, Repr

namespace TemplateMatch

/-- Does one match come before another, or are they alike? -/
def precedes (a b : TemplateMatch) : Bool :=
  b.similarity.score < a.similarity.score ||
    (a.similarity.score == b.similarity.score && a.name ≤ b.name)

def scoreText (places : Nat) (m : TemplateMatch) : String :=
  Numeral.fixed places m.similarity.shown

end TemplateMatch

def defaultSuggestions : Nat := 10

def leastScore : Rat := 1 / 2

/-- **The names most like the search text**, best first. -/
def suggest (query : String) (names : List String) (limit : Int) : List TemplateMatch :=
  let wanted := Text.upper (Text.trim query)
  if wanted = "" then []
  else
    let found := names.filterMap fun name =>
      let similarity := Similarity.between wanted (Text.upper name)
      if name = "" ∨ similarity.score < leastScore then none else some ⟨name, similarity⟩
    (found.mergeSort TemplateMatch.precedes).take
      (if limit ≤ 0 then defaultSuggestions else limit.toNat)

end EventRules

/-
**Comparisons.**

A comparison node names its relation by a code.  In the description the relation is a phrase; a
code that is not known means equality.

Main definitions:

* `Comparison`, `Comparison.ofCode`, `Comparison.phrase`;
* `Comparison.pattern` — the phrase as it is looked for.
-/

import EventRules.CatalogKey
import EventRules.Rule.Phrase
import EventRules.Text.Search

set_option relaxedAutoImplicit false
set_option autoImplicit false

namespace EventRules

/-- **The relation of a comparison.** -/
inductive Comparison where
  | equal
  | notEqual
  | lessOrEqual
  | greater
  /-- Both sides are the same, or the left one is empty. -/
  | equalOrEmpty
  deriving DecidableEq, Repr

namespace Comparison

def ofCode (code : String) : Comparison :=
  match catalogKey code with
  | "NOT_EQ" => .notEqual
  | "LE_OR_EQ" => .lessOrEqual
  | "GR" => .greater
  | "EQ_OR_EMPTY" => .equalOrEmpty
  | _ => .equal

def words : Comparison → List String
  | .equal => ["is", "equal", "to"]
  | .notEqual => ["is", "not", "equal", "to"]
  | .lessOrEqual => ["is", "less", "than", "or", "equal", "to"]
  | .greater => ["is", "greater", "than"]
  | .equalOrEmpty => ["is", "equal", "to", "or", "empty"]

/-- **The phrase of a relation.** -/
def phrase (c : Comparison) : String :=
  Text.join " " c.words

def pattern (c : Comparison) : Phrase :=
  Phrase.ofWords c.words

end Comparison

end EventRules

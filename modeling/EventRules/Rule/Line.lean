/-
**Lines of pseudocode.**

The output of a pass is a list of lines, each with its depth.  As text, a line is one tab for every
level of depth, then its own text, then a line feed.  Read back, the leading tabs are the depth
again: this works for every line whose own text neither starts with a tab nor holds a line feed.

Main definitions:

* `Line`, `Line.render` — a line and its text;
* `Line.renderAll` — the text of a list of lines;
* `Line.readAll` — the lines of a text.
-/

import EventRules.Text.Search

set_option relaxedAutoImplicit false
set_option autoImplicit false

namespace EventRules

/-- **A line of pseudocode.** -/
structure Line where
  /-- How deep the line is nested. -/
  depth : Int
  text : String
  deriving DecidableEq, Repr, Inhabited

namespace Line

/-- The number of tabs of a line; there is none outside of all blocks. -/
def indent (l : Line) : Nat :=
  l.depth.toNat

/-- The characters of a line, with its line feed. -/
def chars (l : Line) : List Char :=
  List.replicate l.indent '\t' ++ l.text.toList ++ ['\n']

def render (l : Line) : String :=
  String.ofList l.chars

/-- **The text of a list of lines.** -/
def renderAll (lines : List Line) : String :=
  String.ofList (lines.flatMap chars)

def ofChars (cs : List Char) : Line :=
  ⟨(cs.takeWhile (· == '\t')).length, String.ofList (cs.dropWhile (· == '\t'))⟩

/-- The lines of a text, each up to its line feed; what follows the last one is dropped. -/
def readAll (s : String) : List Line :=
  (Text.splitOn '\n' s.toList).dropLast.map ofChars

end Line

end EventRules

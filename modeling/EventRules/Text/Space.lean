/-
**White space.**

White space is what the Unicode property of that name says: the ASCII blanks, the next-line and
no-break spaces, the spaces of general punctuation and the ideographic space.  A zero-width space
and a byte order mark are not white space.

Main definitions:

* `Text.isSpace` — the characters;
* `Text.trim`, `Text.isBlank` — a text without its outer white space, and one that has nothing else;
* `Text.fields` — the maximal stretches without white space.
-/

set_option relaxedAutoImplicit false
set_option autoImplicit false

namespace EventRules.Text

/-- **White space.** -/
def isSpace (c : Char) : Bool :=
  let n := c.toNat
  n == 0x20 || (0x09 ≤ n && n ≤ 0x0D) || n == 0x85 || n == 0xA0 || n == 0x1680 ||
    (0x2000 ≤ n && n ≤ 0x200A) || n == 0x2028 || n == 0x2029 || n == 0x202F || n == 0x205F ||
    n == 0x3000

def trimLeftChars (cs : List Char) : List Char :=
  cs.dropWhile isSpace

def trimRightChars (cs : List Char) : List Char :=
  (cs.reverse.dropWhile isSpace).reverse

def trimChars (cs : List Char) : List Char :=
  trimRightChars (trimLeftChars cs)

/-- **A text without white space at either end.** -/
def trim (s : String) : String :=
  String.ofList (trimChars s.toList)

def isBlank (s : String) : Bool :=
  s.toList.all isSpace

/-- The fields of a text, given the field being read, last character first. -/
def fieldsFrom : List Char → List Char → List (List Char)
  | [], [] => []
  | current, [] => [current.reverse]
  | current, c :: cs =>
      if isSpace c then
        if current.isEmpty then fieldsFrom [] cs else current.reverse :: fieldsFrom [] cs
      else fieldsFrom (c :: current) cs

def fields (s : String) : List String :=
  (fieldsFrom [] s.toList).map String.ofList

@[simp] theorem toList_trim (s : String) : (trim s).toList = trimChars s.toList := by
  simp [trim]

end EventRules.Text

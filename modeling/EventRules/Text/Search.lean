/-
**Finding and replacing.**

Searches inside a text, on its list of characters.  A replacement passes over the text once from
left to right; a counter of characters that an earlier match has used up keeps the recursion
structural.

Main definitions:

* `Text.strip?` — what follows a given beginning;
* `Text.contains` — does a text occur in another one?
* `Text.replaceAll` — every occurrence replaced;
* `Text.cut` — the parts before and after the first occurrence of a character;
* `Text.join` — texts with a separator between them.
-/

set_option relaxedAutoImplicit false
set_option autoImplicit false

namespace EventRules.Text

/-- If `cs` begins with `start`, the rest of it. -/
def strip? : List Char → List Char → Option (List Char)
  | [], cs => some cs
  | s :: start, c :: cs => if s = c then strip? start cs else none
  | _ :: _, [] => none

/-- Does `cs` begin with `start`? -/
def startsWith (start cs : List Char) : Bool :=
  (strip? start cs).isSome

/-- Does `part` occur in `cs`? -/
def occursIn (part : List Char) : List Char → Bool
  | [] => startsWith part []
  | c :: cs => startsWith part (c :: cs) || occursIn part cs

/-- Does the text `s` begin with `start`? -/
def hasStart (start s : String) : Bool :=
  startsWith start.toList s.toList

/-- Does `part` occur in the text `s`? -/
def contains (part s : String) : Bool :=
  occursIn part.toList s.toList

/-- Replacing with `skip` characters still to be passed over. -/
def replaceFrom (old new : List Char) : Nat → List Char → List Char
  | _, [] => []
  | skip + 1, _ :: cs => replaceFrom old new skip cs
  | 0, c :: cs =>
      if startsWith old (c :: cs) then new ++ replaceFrom old new (old.length - 1) cs
      else c :: replaceFrom old new 0 cs

/-- Every occurrence of the non-empty `old`, from left to right, replaced by `new`. -/
def replaceChars (old new cs : List Char) : List Char :=
  replaceFrom old new 0 cs

/-- Every occurrence of the non-empty text `old` replaced by `new`. -/
def replaceAll (old new s : String) : String :=
  String.ofList (replaceChars old.toList new.toList s.toList)

/-- The text before the first `separator`, and the text after it if there is one. -/
def cut (separator : Char) (s : String) : String × Option String :=
  let before := s.toList.takeWhile (· != separator)
  match s.toList.dropWhile (· != separator) with
  | [] => (s, none)
  | _ :: after => (String.ofList before, some (String.ofList after))

/-- The pieces between the separators, in order; one more than there are separators. -/
def splitOn (separator : Char) : List Char → List (List Char)
  | [] => [[]]
  | c :: cs =>
      if c = separator then [] :: splitOn separator cs
      else
        match splitOn separator cs with
        | [] => [[c]]
        | piece :: pieces => (c :: piece) :: pieces

def join (separator : String) : List String → String
  | [] => ""
  | [s] => s
  | s :: t :: rest => s ++ separator ++ join separator (t :: rest)

/-- `n` copies of a character. -/
def copies (n : Nat) (c : Char) : String :=
  String.ofList (List.replicate n c)

end EventRules.Text

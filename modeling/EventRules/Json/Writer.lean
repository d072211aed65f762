/-
**Writing JSON documents.**

Values are written on one line without blanks, or with every item and every field on a line of its
own.  Texts are written so that they can stand inside a page: besides the quote, the backslash and
the control characters, the angle brackets, the ampersand and the two Unicode line ends are written
by their numbers.

Main definitions:

* `Json.quoted` — a text in quotes;
* `Json.render` — a value on one line;
* `Json.layout` — a value on indented lines.
-/

import EventRules.Json.Value
import EventRules.Text.Hexadecimal
import EventRules.Text.Search

set_option relaxedAutoImplicit false
set_option autoImplicit false

namespace EventRules.Json

def quotedChar (c : Char) : List Char :=
  let n := c.toNat
  if c = '"' then ['\\', '"']
  else if c = '\\' then ['\\', '\\']
  else if n = 8 then ['\\', 'b']
  else if n = 9 then ['\\', 't']
  else if n = 10 then ['\\', 'n']
  else if n = 12 then ['\\', 'f']
  else if n = 13 then ['\\', 'r']
  else if n < 0x20 || c = '<' || c = '>' || c = '&' || n = 0x2028 || n = 0x2029 then
    '\\' :: 'u' :: Text.hexDigits 4 n
  else [c]

/-- **A text in quotes.** -/
def quoted (s : String) : String :=
  String.ofList ('"' :: s.toList.flatMap quotedChar ++ ['"'])

mutual

/-- **A value on one line.** -/
def render : Json → String
  | .null => "null"
  | .bool b => if b then "true" else "false"
  | .number n => n.text
  | .string s => quoted s
  | .array items => "[" ++ renderItems items ++ "]"
  | .object fields => "\x7b" ++ renderFields fields ++ "\x7d"

def renderItems : List Json → String
  | [] => ""
  | [j] => render j
  | j :: k :: rest => render j ++ "," ++ renderItems (k :: rest)

def renderFields : List (String × Json) → String
  | [] => ""
  | [(name, j)] => quoted name ++ ":" ++ render j
  | (name, j) :: k :: rest =>
      quoted name ++ ":" ++ render j ++ "," ++ renderFields (k :: rest)

end

def lineAt (depth : Nat) : String :=
  "\n" ++ Text.copies (2 * depth) ' '

mutual

/-- **A value on lines of its own**, indented by two blanks for each level; nothing follows the
last line. -/
def layout (depth : Nat) : Json → String
  | .array [] => "[]"
  | .array (j :: rest) => "[" ++ layoutItems (depth + 1) (j :: rest) ++ lineAt depth ++ "]"
  | .object [] => "\x7b\x7d"
  | .object (f :: rest) =>
      "\x7b" ++ layoutFields (depth + 1) (f :: rest) ++ lineAt depth ++ "\x7d"
  | .null => "null"
  | .bool b => if b then "true" else "false"
  | .number n => n.text
  | .string s => quoted s

def layoutItems (depth : Nat) : List Json → String
  | [] => ""
  | [j] => lineAt depth ++ layout depth j
  | j :: k :: rest => lineAt depth ++ layout depth j ++ "," ++ layoutItems depth (k :: rest)

def layoutFields (depth : Nat) : List (String × Json) → String
  | [] => ""
  | [(name, j)] => lineAt depth ++ quoted name ++ ": " ++ layout depth j
  | (name, j) :: k :: rest =>
      lineAt depth ++ quoted name ++ ": " ++ layout depth j ++ "," ++
        layoutFields depth (k :: rest)

end

end EventRules.Json

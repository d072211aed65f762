/-
**Writing a document.**

The counterpart of reading: an element is written as a start tag with its attributes in double
quotes, its text, its children and an end tag, or as a single tag if there is nothing inside it.
Characters that mean something to the reader, blanks that it would change included, are written as
references, by name or by number.

Main definitions:

* `Markup.Element`, `Markup.Element.node` — an element to be written, and the tree that it is;
* `Markup.Spelling`, `Markup.escape` — references;
* `Markup.Element.chars`, `Markup.document` — the text of an element and of a document.
-/

import EventRules.Markup.Node
import EventRules.Markup.Scan

set_option relaxedAutoImplicit false
set_option autoImplicit false

namespace EventRules.Markup

/-- **An element to be written.**  Its attributes come in the order in which they are written. -/
structure Element where
  name : String
  attributes : List (String × String)
  text : String
  children : List Element
  deriving Inhabited

mutual

/-- **The tree that an element is.** -/
def Element.node : Element → Node
  | ⟨name, attributes, text, children⟩ =>
      ⟨name, Dictionary.ofList attributes, Element.nodes children, text⟩

def Element.nodes : List Element → List Node
  | [] => []
  | e :: rest => e.node :: Element.nodes rest

end

/-! ### References -/

inductive Spelling where
  /-- By its name, or by its decimal number if it has none. -/
  | name
  | decimal
  | hexadecimal
  deriving DecidableEq, Repr

def numericReference (lead : List Char) (base n : Nat) : List Char :=
  '&' :: '#' :: lead ++ Nat.toDigits base n ++ [';']

def reference (spelling : Spelling) (c : Char) : List Char :=
  match spelling, predefined.find? (·.2 == c) with
  | .name, some (name, _) => '&' :: name.toList ++ [';']
  | .hexadecimal, _ => numericReference ['x'] 16 c.toNat
  | _, _ => numericReference [] 10 c.toNat

def needsReference (c : Char) : Bool :=
  "&<>\"\t\r\n".toList.contains c

/-- **Characters with references where they are needed.** -/
def escape (spell : Char → Spelling) (cs : List Char) : List Char :=
  cs.flatMap fun c => if needsReference c then reference (spell c) c else [c]

/-! ### Tags -/

def attributeChars (spell : Char → Spelling) (a : String × String) : List Char :=
  ' ' :: a.1.toList ++ '=' :: '"' :: escape spell a.2.toList ++ ['"']

mutual

/-- **The text of an element.** -/
def Element.chars (spell : Char → Spelling) : Element → List Char
  | ⟨name, attributes, text, children⟩ =>
      let start := '<' :: name.toList ++ attributes.flatMap (attributeChars spell)
      if text.isEmpty && children.isEmpty then start ++ ['/', '>']
      else
        start ++ '>' :: escape spell text.toList ++ Element.charsOfAll spell children ++
          '<' :: '/' :: name.toList ++ ['>']

def Element.charsOfAll (spell : Char → Spelling) : List Element → List Char
  | [] => []
  | e :: rest => e.chars spell ++ Element.charsOfAll spell rest

end

/-- **A document** with the given elements on its top level. -/
def document (spell : Char → Spelling) (elements : List Element) : Bytes :=
  Utf8.encodeChars (Element.charsOfAll spell elements)

end EventRules.Markup

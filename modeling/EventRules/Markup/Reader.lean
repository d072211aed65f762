/-
**Reading a document into its tree.**

The reader goes through the document from bracket to bracket and keeps the elements that are open,
innermost first, each with the children and the text it has collected so far.  An end tag closes
the innermost element.  If the names differ, that element is closed all the same and the tag is
tried on the next one, until one fits or none is left; an element that declares a space cannot be
passed over in this way.

A document may have several elements on the top level.  The first one is its root, the others have
to be well-formed but are dropped.

Main definitions:

* `Markup.OpenElement`, `Markup.Progress` — the state of the reader;
* `Markup.closeElement` — what an end tag does to the open elements;
* `Markup.readFrom`, `Markup.read` — the reader;
* `Document.parseWith`, `Document.parse` — from bytes in any of the supported encodings to the root
  element, with any index of character sets or with that of this library;
* `Document.isBlank` — documents that carry nothing.
-/

import EventRules.Text.Glyph
import EventRules.Markup.Charset
import EventRules.Markup.Fault
import EventRules.Markup.Node
import EventRules.Markup.Scan

set_option relaxedAutoImplicit false
set_option autoImplicit false

namespace EventRules.Markup

/-! ### Open elements -/

structure OpenElement where
  name : Name
  declaresSpace : Bool
  attrs : Attributes
  /-- Its children so far, the last one first. -/
  children : List Node := []
  text : String := ""

namespace OpenElement

def close (e : OpenElement) : Node :=
  ⟨e.name.localPart, e.attrs, e.children.reverse, e.text⟩

def addChild (e : OpenElement) (n : Node) : OpenElement :=
  { e with children := n :: e.children }

def addText (e : OpenElement) (t : String) : OpenElement :=
  { e with text := e.text ++ t }

end OpenElement

def isSpaceDeclaration (name : Name) : Bool :=
  name.space == "xmlns" || (name.space == "" && name.localPart == "xmlns")

def openElement (name : Name) (attributes : List (Name × String)) : OpenElement where
  name := name
  declaresSpace := attributes.any fun a => isSpaceDeclaration a.1
  attrs := Dictionary.ofList (attributes.map fun a => (a.1.localPart, a.2))

/-- **What an end tag does**: the element that it closes, and the elements still open.  `inner` is
an element that has been closed on the way and belongs to the innermost open one. -/
def closeElement (name : Name) (inner : Option Node) :
    List OpenElement → Except Flaw (Node × List OpenElement)
  | [] => .error (.unexpectedClosingTag name)
  | e :: outer =>
      let closed := (inner.elim e e.addChild).close
      if e.name.localPart = name.localPart then
        if e.name.space = name.space then .ok (closed, outer)
        else .error (.spaceMismatch e.name name)
      else if e.declaresSpace then .error (.unexpectedClosingTag name)
      else closeElement name (some closed) outer

/-! ### The state of the reader -/

/-- **How far reading has come.** -/
structure Progress where
  /-- The open elements, innermost first. -/
  opened : List OpenElement := []
  root : Option Node := none

namespace Progress

def place (p : Progress) (n : Node) : Progress :=
  match p.opened with
  | [] => { p with root := p.root.or (some n) }
  | e :: outer => { p with opened := e.addChild n :: outer }

/-- Adds text to the innermost element; text outside of all elements is dropped. -/
def addText (p : Progress) (t : String) : Progress :=
  match p.opened with
  | [] => p
  | e :: outer => { p with opened := e.addText t :: outer }

def finish (p : Progress) : Except Flaw (Option Node) :=
  match p.opened with
  | [] => .ok p.root
  | _ :: _ => .error .unexpectedEnd

end Progress

/-! ### Declarations -/

/-- The quoted value after the first `key` that a quote follows directly; empty if there is none.
`skip` glyphs are still to be passed over. -/
def declaredFrom (key : List Char) : Nat → List Glyph → List Glyph
  | _, [] => []
  | skip + 1, _ :: s => declaredFrom key skip s
  | 0, g :: s =>
      match Glyph.strip? key (g :: s) with
      | some (q :: after) =>
          if q.is '"' || q.is '\x27' then
            if after.contains q then after.takeWhile (· != q) else []
          else declaredFrom key key.length s
      | some [] => []
      | none => declaredFrom key 0 s

def declared (key : String) (content : List Glyph) : List Glyph :=
  declaredFrom (key ++ "=").toList 0 content

inductive Obstacle where
  | flawed (e : Stop)
  | version (declared : List Glyph)
  | charset (label : List Glyph)

def isUtf8Label (label : List Glyph) : Bool :=
  (label.map fun g => g.shown.toLower) == "utf-8".toList

section

variable (index : CharsetIndex)

def afterDeclaration (content rest : List Glyph) : Except Obstacle (List Glyph) :=
  let version := declared "version" content
  let label := declared "encoding" content
  if !version.isEmpty && version != Glyph.ofString "1.0" then .error (.version version)
  else if label.isEmpty || isUtf8Label label || Charset.keepsText label then .ok rest
  else
    match index (Charset.normalLabel label) with
    | some decode => .ok ((decode (rest.flatMap Glyph.bytes)).map .char)
    | none => .error (.charset label)

/-! ### The reader -/

def Progress.takeItem (p : Progress) (item : Item) (rest : List Glyph) :
    Except Obstacle (Progress × List Glyph) :=
  match item with
  | .opening name attributes true => .ok (p.place (openElement name attributes).close, rest)
  | .opening name attributes false =>
      .ok ({ p with opened := openElement name attributes :: p.opened }, rest)
  | .closing name =>
      match closeElement name none p.opened with
      | .ok (n, outer) => .ok (({ p with opened := outer } : Progress).place n, rest)
      | .error flaw => .error (.flawed ⟨flaw, rest⟩)
  | .literal t => .ok (p.addText t, rest)
  | .declaration content =>
      match afterDeclaration index content rest with
      | .ok rest' => .ok (p, rest')
      | .error o => .error o
  | .ignored => .ok (p, rest)

/-- Reads on from the given state.  Each round uses up one bracket, so the first argument need not
exceed their number. -/
def readFrom : Nat → Progress → List Glyph → Except Obstacle (Option Node)
  | 0, p, s =>
      match p.finish with
      | .ok root => .ok root
      | .error flaw => .error (.flawed ⟨flaw, s⟩)
  | fuel + 1, p, s =>
      match scanText s with
      | .error e => .error (.flawed e)
      | .ok (text, rest) =>
          let p' := p.addText text
          match rest with
          | [] =>
              match p'.finish with
              | .ok root => .ok root
              | .error flaw => .error (.flawed ⟨flaw, []⟩)
          | _ :: inside =>
              match scanItem fuel inside with
              | .error e => .error (.flawed e)
              | .ok (item, after) =>
                  match p'.takeItem index item after with
                  | .error o => .error o
                  | .ok (p'', after') => readFrom fuel p'' after'

def lineEnds (s : List Glyph) : Nat :=
  s.countP (Glyph.is '\n')

/-- The line on which reading stopped, when `left` of the glyphs `s` were not read. -/
def lineOf (s left : List Glyph) : Nat :=
  1 + (lineEnds s - lineEnds left)

/-- **The root element of a document.** -/
def read (s : List Glyph) : Except Fault Node :=
  match readFrom index (s.length + 1) {} s with
  | .ok (some root) => .ok root
  | .ok none => .error .noRoot
  | .error (.flawed e) => .error (.flawed (lineOf s e.rest) e.flaw)
  | .error (.version v) => .error (.version v)
  | .error (.charset l) => .error (.charset l)

end

end EventRules.Markup

namespace EventRules.Document

open EventRules.Markup

/-- The bytes that carry nothing: blanks, padding, and the bytes of byte order marks. -/
def isBlankByte (b : UInt8) : Bool :=
  b == 0x20 || b == 0x09 || b == 0x0D || b == 0x0A || b == 0x00 || b == 0xEF || b == 0xBB ||
    b == 0xBF || b == 0xFE || b == 0xFF

/-- **Does the document carry nothing?** -/
def isBlank (doc : Bytes) : Bool :=
  doc.all isBlankByte

def trimPadding (s : List Glyph) : List Glyph :=
  (s.reverse.dropWhile (Glyph.is (Char.ofNat 0))).reverse

/-- The glyphs of a document whose encoding shows in its first two bytes: UTF-16 with a byte order
mark or with a bracket at the start, and otherwise UTF-8, whose byte order mark is dropped. -/
def decode (doc : Bytes) : List Glyph :=
  match doc with
  | 0xFF :: 0xFE :: rest => (Utf16.decode .little rest).map .char
  | 0xFE :: 0xFF :: rest => (Utf16.decode .big rest).map .char
  | 0x3C :: 0x00 :: _ => (Utf16.decode .little doc).map .char
  | 0x00 :: 0x3C :: _ => (Utf16.decode .big doc).map .char
  | 0xEF :: 0xBB :: 0xBF :: rest => Utf8.decode rest
  | _ => Utf8.decode doc

/-- **The root element of a document**, in whatever encoding it comes, with an index of the
character sets that it may declare. -/
def parseWith (index : CharsetIndex) (doc : Bytes) : Except Fault Node :=
  read index (trimPadding (decode doc))

def parse (doc : Bytes) : Except Fault Node :=
  parseWith Charset.index doc

end EventRules.Document

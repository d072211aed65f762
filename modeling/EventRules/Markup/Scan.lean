/-
**Reading markup piece by piece.**

A scan takes the glyphs of a document from some point on and reads one piece of markup off their
front: a name, an attribute, a text, a tag.  It answers with what it has read and the glyphs after
it, or stops with a flaw and the glyphs that were left at that point; how many line ends are left
tells on which line it stopped.

The reader is lenient.  An attribute may come without a value, which is then its own name, or with
a value without quotes.  References by name other than the five predefined ones stay as they are.

Main definitions:

* `Markup.Scan` — the outcome of a scan;
* `Markup.expand?` — a stretch of text with its references and line ends resolved;
* `Markup.scanText`, `Markup.scanAttributes` — texts and the inside of a start tag;
* `Markup.Item`, `Markup.scanItem` — everything that starts with a bracket.
-/

import EventRules.Text.Glyph
import EventRules.Markup.Name
import EventRules.Markup.Fault

set_option relaxedAutoImplicit false
set_option autoImplicit false

namespace EventRules.Markup

/-! ### Outcomes -/

structure Stop where
  flaw : Flaw
  rest : List Glyph

/-- The outcome of a scan: what was read, and the glyphs after it. -/
abbrev Scan (α : Type) := Except Stop (α × List Glyph)

def stop {α : Type} (flaw : Flaw) (rest : List Glyph) : Scan α :=
  .error ⟨flaw, rest⟩

def stopAtEnd {α : Type} : Scan α :=
  stop .unexpectedEnd []

/-! ### Blanks and names -/

def isBlankGlyph : Glyph → Bool :=
  Glyph.holds fun c => c == ' ' || c == '\t' || c == '\n' || c == '\r'

def skipBlanks (s : List Glyph) : List Glyph :=
  s.dropWhile isBlankGlyph

/-- A glyph that is read as part of a name: everything beyond ASCII, and the ASCII characters of
names.  Whether the collected glyphs really are a name is decided afterwards. -/
def isNameGlyph : Glyph → Bool
  | .char c =>
      0x80 ≤ c.toNat || c.isAlphanum || c == '_' || c == ':' || c == '.' || c == '-'
  | .stray _ => true

/-- The characters of the name at the front; nothing if there is no name. -/
def scanRawName (s : List Glyph) : Scan (Option (List Char)) :=
  match s with
  | [] => stopAtEnd
  | _ :: _ =>
      let word := s.takeWhile isNameGlyph
      let rest := s.dropWhile isNameGlyph
      if word.isEmpty then .ok (none, s)
      else if rest.isEmpty then stopAtEnd
      else
        match Glyph.chars? word with
        | some cs => if isName cs then .ok (some cs, rest) else stop (.invalidName word) rest
        | none => stop (.invalidName word) rest

/-- The name at the front, divided into its parts. -/
def scanName (place : NamePlace) (s : List Glyph) : Scan Name :=
  match scanRawName s with
  | .error e => .error e
  | .ok (none, rest) => stop (.missingName place) rest
  | .ok (some cs, rest) =>
      match Name.ofChars? cs with
      | some name => .ok (name, rest)
      | none => stop (.missingName place) rest

/-! ### Text -/

def isLegal (c : Char) : Bool :=
  let n := c.toNat
  n == 0x09 || n == 0x0A || n == 0x0D || (0x20 ≤ n && n ≤ 0xD7FF) ||
    (0xE000 ≤ n && n ≤ 0xFFFD) || 0x10000 ≤ n

/-- The characters of a text, or the first flaw in it. -/
def legalChars : List Glyph → Except Flaw (List Char)
  | [] => .ok []
  | .stray _ :: _ => .error .invalidEncoding
  | .char c :: gs =>
      if isLegal c then
        match legalChars gs with
        | .ok cs => .ok (c :: cs)
        | .error e => .error e
      else .error (.illegalCharacter c)

def predefined : List (String × Char) :=
  [("lt", '<'), ("gt", '>'), ("amp", '&'), ("apos", '\x27'), ("quot", '"')]

def digitValue? (base : Nat) : Glyph → Option Nat
  | .stray _ => none
  | .char c =>
      let value :=
        if '0' ≤ c ∧ c ≤ '9' then c.toNat - '0'.toNat
        else if 'a' ≤ c ∧ c ≤ 'f' then c.toNat - 'a'.toNat + 10
        else if 'A' ≤ c ∧ c ≤ 'F' then c.toNat - 'A'.toNat + 10
        else 16
      if value < base then some value else none

/-- The character with the given number; a number that belongs to no character, half of a
surrogate pair, gives the replacement character. -/
def numberedChar (n : Nat) : Char :=
  if 0xD800 ≤ n ∧ n ≤ 0xDFFF then replacement else Char.ofNat n

/-- A reference that has been read after its ampersand: what it stands for and how many glyphs it
takes.  A reference that is not understood stands for itself. -/
structure Reference where
  value : List Glyph
  /-- The number of glyphs after the ampersand. -/
  taken : Nat

/-- Does the text go on?  `closed` says that a glyph follows after the stretch of text `s`. -/
def goesOn (closed : Bool) (s : List Glyph) : Bool :=
  closed || !s.isEmpty

/-- The reference by number whose digits start at `s`; `lead` are the glyphs before them. -/
def numberReference? (closed : Bool) (base : Nat) (lead s : List Glyph) : Option Reference :=
  let digits := s.takeWhile fun g => (digitValue? base g).isSome
  let after := s.drop digits.length
  let asWritten : Reference := ⟨.char '&' :: lead ++ digits, lead.length + digits.length⟩
  if !goesOn closed after then none
  else
    match after with
    | g :: _ =>
        if g.is ';' then
          let number := (digits.filterMap (digitValue? base)).foldl (fun n d => n * base + d) 0
          if digits.isEmpty || 0x10FFFF < number then
            some ⟨asWritten.value ++ [g], asWritten.taken + 1⟩
          else some ⟨[.char (numberedChar number)], asWritten.taken + 1⟩
        else some asWritten
    | [] => some asWritten

/-- The reference by name that starts at `s`. -/
def nameReference? (closed : Bool) (s : List Glyph) : Option Reference :=
  let word := s.takeWhile isNameGlyph
  let after := s.drop word.length
  let asWritten : Reference := ⟨.char '&' :: word, word.length⟩
  if !goesOn closed after then none
  else
    match after with
    | g :: _ =>
        if g.is ';' then
          match predefined.lookup (Glyph.text word) with
          | some c => some ⟨[.char c], word.length + 1⟩
          | none => some ⟨asWritten.value ++ [g], word.length + 1⟩
        else some asWritten
    | [] => some asWritten

/-- The reference after an ampersand; nothing if the document ends inside of it. -/
def scanReference? (closed : Bool) (s : List Glyph) : Option Reference :=
  match s with
  | .char '#' :: .char 'x' :: more =>
      numberReference? closed 16 [.char '#', .char 'x'] more
  | .char '#' :: more => numberReference? closed 10 [.char '#'] more
  | _ => nameReference? closed s

/-- Resolving a stretch of text with `skip` glyphs still to be passed over. -/
def expandFrom? (closed : Bool) : Nat → List Glyph → Option (List Glyph)
  | _, [] => some []
  | skip + 1, _ :: s => expandFrom? closed skip s
  | 0, g :: s =>
      if g.is '&' then
        match scanReference? closed s with
        | some r => (expandFrom? closed r.taken s).map (r.value ++ ·)
        | none => none
      else if g.is '\r' then
        (expandFrom? closed (if (s.head?.map (Glyph.is '\n')).getD false then 1 else 0) s).map
          (.char '\n' :: ·)
      else (expandFrom? closed 0 s).map (g :: ·)

/-- **A stretch of text with its references resolved** and its line ends written as line feeds.
Nothing if the document ends inside a reference; `closed` says that it goes on after the
stretch. -/
def expand? (closed : Bool) (s : List Glyph) : Option (List Glyph) :=
  expandFrom? closed 0 s

/-- The text of a stretch of glyphs, `rest` being what follows it. -/
def scanStretch (s rest : List Glyph) : Scan String :=
  match expand? (!rest.isEmpty) s with
  | none => stopAtEnd
  | some gs =>
      match legalChars gs with
      | .ok cs => .ok (String.ofList cs, rest)
      | .error flaw => stop flaw rest

def afterLiteralEnd? : List Glyph → Option (List Glyph)
  | [] => none
  | g :: s =>
      match Glyph.strip? "]]>".toList (g :: s) with
      | some rest => some rest
      | none => afterLiteralEnd? s

/-- **The text up to the next bracket** or the end of the document. -/
def scanText (s : List Glyph) : Scan String :=
  let stretch := s.takeWhile (!Glyph.is '<' ·)
  let rest := s.dropWhile (!Glyph.is '<' ·)
  match afterLiteralEnd? stretch with
  | some left => stop .literalEndInText (left ++ rest)
  | none => scanStretch stretch rest

def beforeLiteralEnd : List Glyph → List Glyph
  | [] => []
  | g :: s =>
      match Glyph.strip? "]]>".toList (g :: s) with
      | some _ => []
      | none => g :: beforeLiteralEnd s

def plainLineEnds : List Glyph → List Glyph
  | [] => []
  | [g] => if g.is '\r' then [.char '\n'] else [g]
  | g :: h :: s =>
      if g.is '\r' then
        if h.is '\n' then .char '\n' :: plainLineEnds s else .char '\n' :: plainLineEnds (h :: s)
      else g :: plainLineEnds (h :: s)

def scanLiteral (s : List Glyph) : Scan String :=
  match afterLiteralEnd? s with
  | none => stop .unexpectedEndOfLiteral []
  | some rest =>
      match legalChars (plainLineEnds (beforeLiteralEnd s)) with
      | .ok cs => .ok (String.ofList cs, rest)
      | .error flaw => stop flaw rest

/-! ### Attributes -/

def scanQuoted (quote : Char) (s : List Glyph) : Scan String :=
  let inside := fun g : Glyph => !g.is '<' && !g.is quote
  let stretch := s.takeWhile inside
  match s.dropWhile inside with
  | [] => scanStretch stretch []
  | g :: rest =>
      if g.is '<' then stop .bracketInQuotes rest
      else
        match scanStretch stretch (g :: rest) with
        | .ok (value, _) => .ok (value, rest)
        | .error e => .error ⟨e.flaw, rest⟩

def isBareChar (c : Char) : Bool :=
  c.isAlphanum || c == '_' || c == ':' || c == '-'

/-- The value of an attribute, quoted or bare. -/
def scanValue (s : List Glyph) : Scan String :=
  match s with
  | [] => stopAtEnd
  | g :: rest =>
      if g.is '"' then scanQuoted '"' rest
      else if g.is '\x27' then scanQuoted '\x27' rest
      else
        let bare := s.takeWhile (Glyph.holds isBareChar)
        let after := s.dropWhile (Glyph.holds isBareChar)
        if after.isEmpty then stopAtEnd else .ok (Glyph.text bare, after)

/-- An attribute: its name, and its value or else its local name. -/
def scanAttribute (s : List Glyph) : Scan (Name × String) :=
  match scanName .attribute s with
  | .error e => .error e
  | .ok (name, rest) =>
      match skipBlanks rest with
      | [] => stopAtEnd
      | g :: more =>
          if g.is '=' then
            match scanValue (skipBlanks more) with
            | .ok (value, after) => .ok ((name, value), after)
            | .error e => .error e
          else .ok ((name, name.localPart), g :: more)

/-- The inside of a start tag: its attributes, and whether the tag closes the element at once.
Every attribute takes at least one glyph, so the first argument need not exceed their number. -/
def scanAttributes : Nat → List Glyph → Scan (List (Name × String) × Bool)
  | 0, _ => stopAtEnd
  | fuel + 1, s =>
      match skipBlanks s with
      | [] => stopAtEnd
      | g :: rest =>
          if g.is '>' then .ok (([], false), rest)
          else if g.is '/' then
            match rest with
            | [] => stopAtEnd
            | h :: after =>
                if h.is '>' then .ok (([], true), after) else stop .unfinishedEmptyElement after
          else
            match scanAttribute (g :: rest) with
            | .error e => .error e
            | .ok (first, after) =>
                match scanAttributes fuel after with
                | .error e => .error e
                | .ok ((more, closed), after') => .ok ((first :: more, closed), after')

/-! ### Everything that starts with a bracket -/

/-- **One piece of markup.** -/
inductive Item where
  /-- A start tag; `closed` if the element ends with it. -/
  | opening (name : Name) (attributes : List (Name × String)) (closed : Bool)
  | closing (name : Name)
  | literal (text : String)
  | declaration (content : List Glyph)
  | ignored

def scanClosing (s : List Glyph) : Scan Item :=
  match scanName .closing s with
  | .error e => .error e
  | .ok (name, rest) =>
      match skipBlanks rest with
      | [] => stopAtEnd
      | g :: after =>
          if g.is '>' then .ok (.closing name, after)
          else stop (.charactersInClosingTag name) after

/-- The content of an instruction up to its end mark, and what follows. -/
def splitInstruction? : List Glyph → Option (List Glyph × List Glyph)
  | [] => none
  | g :: s =>
      match Glyph.strip? "?>".toList (g :: s) with
      | some rest => some ([], rest)
      | none => (splitInstruction? s).map fun r => (g :: r.1, r.2)

def scanInstruction (s : List Glyph) : Scan Item :=
  match scanRawName s with
  | .error e => .error e
  | .ok (none, rest) => stop (.missingName .instruction) rest
  | .ok (some target, rest) =>
      match splitInstruction? (skipBlanks rest) with
      | none => stopAtEnd
      | some (content, after) =>
          if target = "xml".toList then .ok (.declaration content, after) else .ok (.ignored, after)

def scanComment : List Glyph → Scan Item
  | [] => stopAtEnd
  | g :: s =>
      match Glyph.strip? "--".toList (g :: s) with
      | some [] => stopAtEnd
      | some (h :: rest) => if h.is '>' then .ok (.ignored, rest) else stop .hyphensInComment rest
      | none => scanComment s

inductive DirectivePlace where
  | plain
  | quoted (quote : Char)
  | comment
  deriving DecidableEq, Repr

/-- What follows a directive with `depth` brackets open, `skip` glyphs still to be passed over. -/
def afterDirective? : DirectivePlace → Nat → Nat → List Glyph → Option (List Glyph)
  | _, _, _, [] => none
  | place, depth, skip + 1, _ :: s => afterDirective? place depth skip s
  | .plain, depth, 0, g :: s =>
      if g.is '>' then
        match depth with
        | 0 => some s
        | d + 1 => afterDirective? .plain d 0 s
      else if g.is '\x27' then afterDirective? (.quoted '\x27') depth 0 s
      else if g.is '"' then afterDirective? (.quoted '"') depth 0 s
      else if g.is '<' then
        if (Glyph.strip? "!--".toList s).isSome then afterDirective? .comment depth 3 s
        else afterDirective? .plain (depth + 1) 0 s
      else afterDirective? .plain depth 0 s
  | .quoted q, depth, 0, g :: s =>
      afterDirective? (if g.is q then .plain else .quoted q) depth 0 s
  | .comment, depth, 0, g :: s =>
      if (Glyph.strip? "-->".toList (g :: s)).isSome then afterDirective? .plain depth 2 s
      else afterDirective? .comment depth 0 s

def scanLiteralStart : List Char → List Glyph → Scan Item
  | [], s =>
      match scanLiteral s with
      | .ok (text, rest) => .ok (.literal text, rest)
      | .error e => .error e
  | _ :: _, [] => stopAtEnd
  | c :: cs, g :: s => if g.is c then scanLiteralStart cs s else stop .invalidLiteralStart s

/-- A comment, literal text or directive after its exclamation mark. -/
def scanSpecial (s : List Glyph) : Scan Item :=
  match s with
  | [] => stopAtEnd
  | g :: rest =>
      if g.is '-' then
        match rest with
        | [] => stopAtEnd
        | h :: more => if h.is '-' then scanComment more else stop .invalidCommentStart more
      else if g.is '[' then scanLiteralStart "CDATA[".toList rest
      else
        match afterDirective? .plain 0 0 rest with
        | some after => .ok (.ignored, after)
        | none => stopAtEnd

def scanOpening (fuel : Nat) (s : List Glyph) : Scan Item :=
  match scanName .element s with
  | .error e => .error e
  | .ok (name, rest) =>
      match scanAttributes fuel rest with
      | .error e => .error e
      | .ok ((attributes, closed), after) => .ok (.opening name attributes closed, after)

/-- **The piece of markup after a bracket.** -/
def scanItem (fuel : Nat) (s : List Glyph) : Scan Item :=
  match s with
  | [] => stopAtEnd
  | g :: rest =>
      if g.is '/' then scanClosing rest
      else if g.is '?' then scanInstruction rest
      else if g.is '!' then scanSpecial rest
      else scanOpening fuel s

end EventRules.Markup

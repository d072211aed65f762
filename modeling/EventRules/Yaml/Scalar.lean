/-
**Scalars of a YAML document.**

A plain scalar runs to a colon that ends a key, to a comment, to a mark between documents or to a
line that is indented too little; inside brackets it also ends at the next bracket, comma or
question mark.  A scalar in single quotes knows one escape, a doubled quote; one in double quotes
knows many.  All of these may run over several lines.  A line break between words becomes a blank,
and blanks around it disappear; further empty lines become line breaks.

A block scalar starts behind a bar or an angle bracket and takes all following lines that are
indented deeply enough.  Behind a bar lines stay what they are; behind an angle bracket two lines
that start with a word are joined.  What happens to the line breaks at the end is up to a sign.

Main definitions:

* `Yaml.Gap`, `Yaml.Gap.text` — what stands between words, and what becomes of it;
* `Yaml.Scanned` — a scalar as it was found;
* `Yaml.plain`, `Yaml.single`, `Yaml.double`, `Yaml.block` — the kinds of scalars.
-/

import EventRules.Numeral.Integer
import EventRules.Yaml.Source

set_option relaxedAutoImplicit false
set_option autoImplicit false

namespace EventRules.Yaml

/-- A problem with something that starts at one place, noticed at another one.  It is reported for
the line where the thing starts, or for the other line if that is the first one. -/
def problemIn (start noticed : Place) (what : Problem) : Fault :=
  .problem (if start.line ≠ 0 then start.line + 1
    else if noticed.line ≠ 0 then noticed.line + 1 else 0) what

/-- **A scalar as it was found.** -/
structure Scanned where
  text : String
  /-- Was there a line break between it and what follows? -/
  broken : Bool := false
  rest : Source

/-! ### Gaps -/

/-- **What stands between words**, the last character first. -/
inductive Gap where
  | blanks (cs : List Char)
  /-- Line breaks, with blanks that do not count. -/
  | breaks (cs : List Char)
  /-- Line breaks behind one that has been taken back. -/
  | joined (cs : List Char)
  deriving DecidableEq, Repr

namespace Gap

def none : Gap := .blanks []

def add (c : Char) : Gap → Gap
  | .blanks cs => if isBreak c then .breaks [c] else .blanks (c :: cs)
  | .breaks cs => if isBreak c then .breaks (c :: cs) else .breaks cs
  | .joined cs => if isBreak c then .joined (c :: cs) else .joined cs

def isBroken : Gap → Bool
  | .blanks _ => false
  | _ => true

/-- Line breaks folded: a single line feed becomes a blank, and a line feed before others
disappears. -/
def fold : List Char → List Char
  | ['\n'] => [' ']
  | '\n' :: more => more
  | cs => cs

/-- **What becomes of a gap.** -/
def text : Gap → List Char
  | .blanks cs => cs.reverse
  | .breaks cs => fold cs.reverse
  | .joined cs => cs.reverse

end Gap

/-- What has been read, last character first, with a gap behind it. -/
def withGap (read : List Char) (gap : Gap) : List Char :=
  gap.text.reverse ++ read

/-! ### Plain scalars -/

def isFlowMark (c : Char) : Bool :=
  ",?[]\x7b\x7d".toList.contains c

def endsPlain (flow : Bool) (s : Spot) (rest : Source) : Bool :=
  s.char == endMark || (s.char == ':' && isGap rest.char) || (flow && isFlowMark s.char)

/-- Does a plain scalar end before this character because of the gap before it? -/
def endsAfterGap (flow : Bool) (indent : Int) (s : Spot) (rest : Source) : Bool :=
  (!flow && decide ((s.column : Int) < indent)) || s.char == '#' || Source.atMark (s :: rest)

/-- A plain scalar, given what has been read of it, last character first, and the gap after that. -/
def plainFrom (flow : Bool) (indent : Int) (start : Place) :
    List Char → Gap → Source → Except Fault Scanned
  | read, gap, [] => .ok ⟨String.ofList read.reverse, gap.isBroken, []⟩
  | read, gap, s :: rest =>
      if isBlank s.char || isBreak s.char then
        if gap.isBroken && s.char == '\t' && decide ((s.column : Int) < indent) then
          .error (problemIn start s.place .tabBeforePlain)
        else plainFrom flow indent start read (gap.add s.char) rest
      else if endsPlain flow s rest || (gap != .none && endsAfterGap flow indent s rest) then
        .ok ⟨String.ofList read.reverse, gap.isBroken, s :: rest⟩
      else plainFrom flow indent start (s.char :: withGap read gap) .none rest

/-- **A plain scalar**, inside brackets or not, whose further lines start in column `indent` or
after. -/
def plain (flow : Bool) (indent : Int) (source : Source) : Except Fault Scanned :=
  plainFrom flow indent source.place [] .none source

/-! ### Quoted scalars -/

/-- A scalar in single quotes, given what has been read of it, last character first, and the gap
after that. -/
def singleFrom (start : Place) : List Char → Gap → Source → Except Fault Scanned
  | _, _, [] => .error (problemIn start start .endInQuotes)
  | read, gap, s :: rest =>
      if isBlank s.char || isBreak s.char then singleFrom start read (gap.add s.char) rest
      else if s.char = endMark then .error (problemIn start s.place .endInQuotes)
      else if Source.atMark (s :: rest) then .error (problemIn start s.place .markInQuotes)
      else if s.char = '\x27' then
        match rest with
        | next :: rest' =>
            if next.char = '\x27' then singleFrom start ('\x27' :: withGap read gap) .none rest'
            else .ok { text := String.ofList (withGap read gap).reverse, rest := next :: rest' }
        | [] => .ok { text := String.ofList (withGap read gap).reverse, rest := [] }
      else singleFrom start (s.char :: withGap read gap) .none rest

/-- **A scalar in single quotes**, at the first of them. -/
def single (source : Source) : Except Fault Scanned :=
  singleFrom source.place [] .none (source.drop 1)

inductive Escape where
  | char (c : Char)
  | digits (count : Nat)
  deriving DecidableEq, Repr

def escape? (c : Char) : Option Escape :=
  match c with
  | '0' => some (.char '\x00')
  | 'a' => some (.char '\x07')
  | 'b' => some (.char '\x08')
  | 't' => some (.char '\t')
  | '\t' => some (.char '\t')
  | 'n' => some (.char '\n')
  | 'v' => some (.char '\x0b')
  | 'f' => some (.char '\x0c')
  | 'r' => some (.char '\r')
  | 'e' => some (.char '\x1b')
  | ' ' => some (.char ' ')
  | '"' => some (.char '"')
  | '\x27' => some (.char '\x27')
  | '\\' => some (.char '\\')
  | 'N' => some (.char (Char.ofNat 0x85))
  | '_' => some (.char (Char.ofNat 0xA0))
  | 'L' => some (.char (Char.ofNat 0x2028))
  | 'P' => some (.char (Char.ofNat 0x2029))
  | 'x' => some (.digits 2)
  | 'u' => some (.digits 4)
  | 'U' => some (.digits 8)
  | _ => none

/-- The number that hexadecimal digits write, if all of them are there. -/
def hexNumber? (count : Nat) (source : Source) : Option Nat :=
  let digits := (source.take count).filterMap fun s => Text.hexDigit? s.char
  if digits.length = count then some (digits.foldl (fun n d => n * 16 + d) 0) else none

/-- The character of a number, if it has one. -/
def charOf? (n : Nat) : Option Char :=
  if (0xD800 ≤ n && n ≤ 0xDFFF) || 0x10FFFF < n then none else some (Char.ofNat n)

def escaped (start : Place) (count : Nat) (source : Source) : Except Fault Char :=
  match hexNumber? count source with
  | none => .error (problemIn start source.place .escapeDigits)
  | some n =>
      match charOf? n with
      | none => .error (problemIn start source.place .escapeCharacter)
      | some c => .ok c

/-- A scalar in double quotes, with `skip` characters still to be passed over, given what has been
read of it, last character first, and the gap after that. -/
def doubleFrom (start : Place) : Nat → List Char → Gap → Source → Except Fault Scanned
  | _, _, _, [] => .error (problemIn start start .endInQuotes)
  | skip + 1, read, gap, _ :: rest => doubleFrom start skip read gap rest
  | 0, read, gap, s :: rest =>
      if isBlank s.char || isBreak s.char then doubleFrom start 0 read (gap.add s.char) rest
      else if s.char = endMark then .error (problemIn start s.place .endInQuotes)
      else if Source.atMark (s :: rest) then .error (problemIn start s.place .markInQuotes)
      else if s.char = '"' then
        .ok { text := String.ofList (withGap read gap).reverse, rest := rest }
      else if s.char = '\\' then
        if isBreak (Source.char rest) then
          doubleFrom start 1 (withGap read gap) (.joined []) rest
        else
          match escape? (Source.char rest) with
          | none => .error (problemIn start s.place .escape)
          | some (.char c) => doubleFrom start 1 (c :: withGap read gap) .none rest
          | some (.digits count) =>
              match escaped start count (rest.drop 1) with
              | .error fault => .error fault
              | .ok c => doubleFrom start (count + 1) (c :: withGap read gap) .none rest
      else doubleFrom start 0 (s.char :: withGap read gap) .none rest

/-- **A scalar in double quotes**, at the first of them. -/
def double (source : Source) : Except Fault Scanned :=
  doubleFrom source.place 0 [] .none (source.drop 1)

/-! ### Block scalars -/

inductive Chomping where
  | strip
  | clip
  | keep
  deriving DecidableEq, Repr

/-- The sign for a way of chomping, if there is one, and what follows it. -/
def chompingSign (source : Source) : Chomping × Source :=
  if source.char = '+' then (.keep, source.drop 1)
  else if source.char = '-' then (.strip, source.drop 1)
  else (.clip, source)

/-- The digit that tells the indentation, if there is one, and what follows it. -/
def indentDigit (source : Source) : Option Nat × Source :=
  if Numeral.isDigit source.char then
    (some (source.char.toNat - '0'.toNat), source.drop 1)
  else (none, source)

structure BlockHeader where
  chomping : Chomping
  /-- How much deeper the lines are indented than what the scalar belongs to, if that is told. -/
  increment : Option Nat

/-- The sign and the digit behind a bar or an angle bracket, in either order, and what follows. -/
def blockSigns (source : Source) : BlockHeader × Source :=
  match chompingSign source with
  | (.clip, _) =>
      let (digit, rest) := indentDigit source
      if digit.isNone then (⟨.clip, none⟩, rest)
      else
        let (chomping, rest') := chompingSign rest
        (⟨chomping, digit⟩, rest')
  | (chomping, rest) =>
      let (digit, rest') := indentDigit rest
      (⟨chomping, digit⟩, rest')

/-- The first line of a block scalar, behind its bar or angle bracket, and the following lines. -/
def blockHeader (start : Place) (source : Source) : Except Fault (BlockHeader × Source) :=
  let (header, rest) := blockSigns source
  if header.increment = some 0 then .error (problemIn start rest.place .zeroIndent)
  else
    let line := Source.skipBlanks rest
    let line := if Source.char line = '#' then Source.skipLine line else line
    if !isLineEnd (Source.char line) then .error (problemIn start (Source.place line) .blockHeader)
    else .ok (header, if isBreak (Source.char line) then line.drop 1 else line)

/-- Passes over blank lines: the greatest indentation, the line breaks, the last one first, and what
follows them. -/
def blankLines (start : Place) : Nat → List Char → Source → Except Fault (Nat × List Char × Source)
  | width, breaks, [] => .ok (width, breaks, [])
  | width, breaks, s :: rest =>
      if s.char = ' ' then blankLines start width breaks rest
      else
        let width := Nat.max width s.column
        if s.char = '\t' then .error (problemIn start s.place .tabBeforeBlock)
        else if isBreak s.char then blankLines start width (s.char :: breaks) rest
        else .ok (width, breaks, s :: rest)

structure BlockBody where
  /-- The text, last character first. -/
  read : List Char := []
  lineBreak : List Char := []
  /-- The breaks of empty lines after that, the last one first. -/
  breaks : List Char := []
  startsBlank : Bool := false
  inLine : Bool := false

/-- A new line that starts with a character.  The break before it disappears if the lines are to be
joined. -/
def BlockBody.startLine (literal : Bool) (c : Char) (b : BlockBody) : BlockBody :=
  let joins := !literal && !b.startsBlank && !isBlank c && b.lineBreak == ['\n']
  let before :=
    if joins then (if b.breaks.isEmpty then [' '] else []) else b.lineBreak
  { read := c :: (b.breaks ++ before.reverse ++ b.read), startsBlank := isBlank c, inLine := true }

def blockLines (literal : Bool) (start : Place) (column : Nat) :
    BlockBody → Source → Except Fault (BlockBody × Source)
  | b, [] => .ok (b, [])
  | b, s :: rest =>
      if b.inLine then
        if isBreak s.char then
          blockLines literal start column { b with inLine := false, lineBreak := [s.char] } rest
        else if s.char = endMark then .ok (b, s :: rest)
        else blockLines literal start column { b with read := s.char :: b.read } rest
      else if s.column < column && s.char == ' ' then blockLines literal start column b rest
      else if s.column < column && s.char == '\t' then
        .error (problemIn start s.place .tabBeforeBlock)
      else if isBreak s.char then
        blockLines literal start column { b with breaks := s.char :: b.breaks } rest
      else if s.column = column && s.char ≠ endMark then
        blockLines literal start column (b.startLine literal s.char) rest
      else .ok (b, s :: rest)

def BlockBody.text (chomping : Chomping) (b : BlockBody) : String :=
  let ending :=
    match chomping with
    | .strip => []
    | .clip => b.lineBreak
    | .keep => b.lineBreak ++ b.breaks.reverse
  String.ofList (b.read.reverse ++ ending)

/-- **A block scalar**, at its bar or angle bracket.  It belongs to something in column `indent`. -/
def block (literal : Bool) (indent : Int) (source : Source) : Except Fault Scanned := do
  let start := source.place
  let (header, lines) ← blockHeader start (source.drop 1)
  match header.increment with
  | some n =>
      let (body, rest) ← blockLines literal start (indent.toNat + n) {} lines
      return { text := body.text header.chomping, broken := true, rest := rest }
  | none =>
      let (width, breaks, lines') ← blankLines start 0 [] lines
      let column := Nat.max (Nat.max width (indent + 1).toNat) 1
      let (body, rest) ← blockLines literal start column { breaks := breaks } lines'
      return { text := body.text header.chomping, broken := true, rest := rest }

end EventRules.Yaml

/-
**Tokens of a YAML document.**

Outside brackets the structure of a document is in its columns.  Where a line is indented deeper
than what it belongs to, a block starts, and where a line is indented less, blocks end; starts and
ends are tokens like those that are written.

Whether a word is a key is known only when the colon behind it is found.  So every place where a key
may start is remembered, one for each level of brackets, and when a colon comes, the tokens that
announce the key are put in before it, among tokens that are already waiting.  A key and its colon
have to be on one line and not too far apart.  Where only a key can stand, a missing colon is an
error.

Tokens are made as they are asked for.  At least three of them are kept waiting, and more if the
first of them may turn out to be a key; what is not needed for that is not looked at.

Main definitions:

* `Yaml.Token`, `Yaml.TokenKind` — tokens;
* `Yaml.Slot` — a place where a key may start;
* `Yaml.TokenStream`, `Yaml.TokenStream.start` — a document, partly cut into tokens;
* `Yaml.TokenStream.fetch` — one more token;
* `Yaml.TokenStream.peek`, `Yaml.TokenStream.skip` — the first token, and passing over it.
-/

import EventRules.Yaml.Scalar

set_option relaxedAutoImplicit false
set_option autoImplicit false

namespace EventRules.Yaml

/-! ### Tokens -/

/-- **What a token is.** -/
inductive TokenKind where
  | streamEnd
  | documentStart
  | documentEnd
  | blockSequence
  | blockMapping
  /-- A sequence or a mapping of that kind ends. -/
  | blockEnd
  | flowSequence
  | flowSequenceEnd
  | flowMapping
  | flowMappingEnd
  | blockEntry
  | flowEntry
  | key
  | value
  | scalar (text : String) (isPlain : Bool)
  deriving DecidableEq, Repr, Inhabited

/-- **A token** with the places where it starts and ends. -/
structure Token where
  kind : TokenKind
  start : Place
  stop : Place
  deriving DecidableEq, Repr, Inhabited

/-! ### The state -/

/-- **A place where a key may start.** -/
structure Slot where
  possible : Bool := false
  /-- Can only a key start there? -/
  required : Bool := false
  /-- The number of the token there. -/
  number : Nat := 0
  place : Place := {}
  deriving DecidableEq, Repr, Inhabited

/-- The greatest number of characters from the start of a key to its colon. -/
def keyLimit : Nat := 1024

/-- The greatest number of brackets, or of blocks, inside each other. -/
def nestingLimit : Nat := 10000

def Slot.isStale (slot : Slot) (here : Place) : Bool :=
  slot.place.line < here.line || slot.place.index + keyLimit < here.index

def Slot.noColon (slot : Slot) (here : Place) : Fault :=
  problemIn slot.place here .noColon

def Slot.isValid (slot : Slot) (here : Place) : Except Fault Bool :=
  if !slot.possible then .ok false
  else if !slot.isStale here then .ok true
  else if slot.required then .error (slot.noColon here)
  else .ok false

/-- **A document, partly cut into tokens.** -/
structure TokenStream where
  source : Source
  /-- The number of spots in the whole document. -/
  size : Nat
  indent : Int := -1
  /-- The columns of the blocks around it, the innermost first. -/
  outerIndents : List Int := []
  keyAllowed : Bool := true
  slot : Slot := {}
  /-- The slots around it, the innermost first. -/
  outerSlots : List Slot := []
  /-- The numbers of tokens that may turn out to be keys, and how many brackets are around them. -/
  watched : List (Nat × Nat) := []
  waiting : List Token := []
  passed : Nat := 0

namespace TokenStream

/-- **The start of a document.** -/
def start (source : Source) : TokenStream :=
  { source := source, size := source.length }

def here (s : TokenStream) : Place :=
  s.source.place

def inFlow (s : TokenStream) : Bool :=
  !s.outerSlots.isEmpty

def add (s : TokenStream) (token : Token) : TokenStream :=
  { s with waiting := s.waiting ++ [token] }

/-- One more token before the one with a number, or at the end if that has been passed over. -/
def insert (s : TokenStream) (number : Nat) (token : Token) : TokenStream :=
  if number < s.passed then s.add token
  else
    let position := number - s.passed
    { s with waiting := s.waiting.take position ++ token :: s.waiting.drop position }

def nextNumber (s : TokenStream) : Nat :=
  s.passed + s.waiting.length

def take (s : TokenStream) (kind : TokenKind) (size : Nat) : TokenStream :=
  let rest := s.source.drop size
  { s.add ⟨kind, s.here, Source.place rest⟩ with source := rest }

/-! ### Keys -/

def dropSlot (s : TokenStream) : Except Fault TokenStream :=
  if !s.slot.possible then .ok s
  else if s.slot.required then .error (s.slot.noColon s.here)
  else
    .ok { s with
      slot := { s.slot with possible := false }
      watched := s.watched.filter (·.1 != s.slot.number) }

/-- Remembers that a key may start here, if it may. -/
def saveSlot (s : TokenStream) : Except Fault TokenStream := do
  if !s.keyAllowed then return s
  let slot : Slot :=
    { possible := true
      required := !s.inFlow && s.indent == s.here.column
      number := s.nextNumber
      place := s.here }
  let s ← s.dropSlot
  return { s with slot := slot, watched := (slot.number, s.outerSlots.length) :: s.watched }

def openBrackets (s : TokenStream) : Except Fault TokenStream :=
  if nestingLimit ≤ s.outerSlots.length then .error (problemIn s.here s.here .tooDeep)
  else
    .ok { s with
      slot := { number := s.nextNumber, place := s.here }
      outerSlots := s.slot :: s.outerSlots }

def closeBrackets (s : TokenStream) : TokenStream :=
  match s.outerSlots with
  | [] => s
  | slot :: rest =>
      { s with
        slot := slot
        outerSlots := rest
        watched := s.watched.filter (·.1 != s.slot.number) }

/-! ### Blocks -/

/-- Starts a block in a column that is deeper than the innermost block, before the token with a
number or at the end. -/
def startBlock (s : TokenStream) (kind : TokenKind) (place : Place) (number : Option Nat) :
    Except Fault TokenStream :=
  if s.inFlow || decide ((place.column : Int) ≤ s.indent) then .ok s
  else if nestingLimit ≤ s.outerIndents.length then .error (problemIn place s.here .tooDeep)
  else
    let deeper := { s with indent := place.column, outerIndents := s.indent :: s.outerIndents }
    let token : Token := ⟨kind, place, place⟩
    .ok (match number with
      | some n => deeper.insert n token
      | none => deeper.add token)

/-- Ends the blocks whose columns are deeper than the given one, of those that are given. -/
def endBlocksFrom (column : Int) : List Int → TokenStream → TokenStream
  | [], s => s
  | outer :: rest, s =>
      if column < s.indent then
        endBlocksFrom column rest
          ({ s with indent := outer, outerIndents := rest }.add ⟨.blockEnd, s.here, s.here⟩)
      else s

/-- Ends the blocks whose columns are deeper than the given one, outside brackets. -/
def endBlocks (s : TokenStream) (column : Int) : TokenStream :=
  if s.inFlow then s else endBlocksFrom column s.outerIndents s

/-! ### Between tokens -/

def commentReach : Nat := 511

/-- Passes over a comment at its number sign, and over all comments that have nothing but blanks
and line feeds before them; the end of the line is not passed over.  `skip` characters still belong
to what is before the next comment. -/
def skipComments : Nat → Source → Source
  | _, [] => []
  | skip + 1, _ :: rest => skipComments skip rest
  | 0, s :: rest =>
      if !isLineEnd s.char then skipComments 0 rest
      else
        let gap := ((rest.take commentReach).takeWhile fun t => isBlank t.char || t.char == '\n')
        if Source.char (rest.drop gap.length) = '#' then skipComments gap.length rest
        else s :: rest

/-- Passes over blanks, comments and line breaks; at most `fuel` lines of them.  A tab is a blank
only where no key can start. -/
def skipGapFrom : TokenStream → Nat → TokenStream
  | s, 0 => s
  | s, fuel + 1 =>
      let tabs := s.inFlow || !s.keyAllowed
      let rest := s.source.dropWhile fun t => t.char == ' ' || (tabs && t.char == '\t')
      let rest := if Source.char rest = '#' then skipComments 0 rest else rest
      if isBreak (Source.char rest) then
        skipGapFrom { s with source := rest.drop 1, keyAllowed := s.keyAllowed || !s.inFlow } fuel
      else { s with source := rest }

/-- Passes over blanks, comments and line breaks. -/
def skipGap (s : TokenStream) : TokenStream :=
  s.skipGapFrom s.size

def skipLineComment (s : TokenStream) : TokenStream :=
  let rest := Source.skipBlanks s.source
  if Source.char rest = '#' then { s with source := Source.skipLine rest } else s

/-! ### Kinds of tokens -/

def fetchEnd (s : TokenStream) : Except Fault TokenStream := do
  let s ← (s.endBlocks (-1)).dropSlot
  return { s with keyAllowed := false }.add ⟨.streamEnd, s.here, s.here⟩

def fetchMark (s : TokenStream) (kind : TokenKind) : Except Fault TokenStream := do
  let s ← (s.endBlocks (-1)).dropSlot
  return { s with keyAllowed := false }.take kind 3

def fetchOpening (s : TokenStream) (kind : TokenKind) : Except Fault TokenStream := do
  let s ← (← s.saveSlot).openBrackets
  return { s with keyAllowed := true }.take kind 1

def fetchClosing (s : TokenStream) (kind : TokenKind) : Except Fault TokenStream := do
  let s ← s.dropSlot
  return { s.closeBrackets with keyAllowed := false }.take kind 1

def fetchComma (s : TokenStream) : Except Fault TokenStream := do
  let s ← s.dropSlot
  return { s with keyAllowed := true }.take .flowEntry 1

def fetchDash (s : TokenStream) : Except Fault TokenStream := do
  if !s.inFlow && !s.keyAllowed then .error (problemIn s.here s.here .entryNotAllowed)
  else
    let s ← (← s.startBlock .blockSequence s.here none).dropSlot
    return { s with keyAllowed := true }.take .blockEntry 1

def fetchKey (s : TokenStream) : Except Fault TokenStream := do
  if !s.inFlow && !s.keyAllowed then .error (problemIn s.here s.here .keyNotAllowed)
  else
    let s ← (← s.startBlock .blockMapping s.here none).dropSlot
    return { s with keyAllowed := !s.inFlow }.take .key 1

def fetchValueOfKey (s : TokenStream) : Except Fault TokenStream := do
  let slot := s.slot
  let s := s.insert slot.number ⟨.key, slot.place, slot.place⟩
  let s ← s.startBlock .blockMapping slot.place (some slot.number)
  return { s with
    slot := { slot with possible := false }
    watched := s.watched.filter (·.1 != slot.number)
    keyAllowed := false }.take .value 1

def fetchValueAlone (s : TokenStream) : Except Fault TokenStream := do
  if !s.inFlow && !s.keyAllowed then .error (problemIn s.here s.here .valueNotAllowed)
  else
    let s ← s.startBlock .blockMapping s.here none
    return { s with keyAllowed := !s.inFlow }.take .value 1

def fetchValue (s : TokenStream) : Except Fault TokenStream := do
  if ← s.slot.isValid s.here then s.fetchValueOfKey
  else
    let forgotten := { s with slot := { s.slot with possible := false } }
    forgotten.fetchValueAlone

def addScalar (s : TokenStream) (found : Scanned) (isPlain : Bool) : TokenStream :=
  { s.add ⟨.scalar found.text isPlain, s.here, found.rest.place⟩ with source := found.rest }

def fetchBlock (s : TokenStream) (literal : Bool) : Except Fault TokenStream := do
  let s ← s.dropSlot
  return { s with keyAllowed := true }.addScalar (← block literal s.indent s.source) false

def fetchQuoted (s : TokenStream) (scan : Source → Except Fault Scanned) :
    Except Fault TokenStream := do
  let s ← s.saveSlot
  return ({ s with keyAllowed := false }.addScalar (← scan s.source) false).skipLineComment

/-- A plain scalar.  Behind a line break a key may start. -/
def fetchPlain (s : TokenStream) : Except Fault TokenStream := do
  let s ← s.saveSlot
  let found ← plain s.inFlow (s.indent + 1) s.source
  let s := { s with keyAllowed := found.broken }.addScalar found true
  return if found.broken then s else s.skipLineComment

/-- A character that has a meaning of its own where a token may start. -/
def isIndicator (c : Char) : Bool :=
  "-?:,[]\x7b\x7d#&*!|>\x27\"%@\x60".toList.contains c

def startsPlain (flow : Bool) (c next : Char) : Bool :=
  !(isGap c || isIndicator c) || (c == '-' && !isBlank next) ||
    (!flow && (c == '?' || c == ':') && !isGap next)

/-- **One more token**, at its first character.  Anchors, aliases, tags and directives are not
read. -/
def fetchHere (s : TokenStream) : Except Fault TokenStream :=
  let c := s.source.char
  let next := Source.char (s.source.drop 1)
  let comment (t : Except Fault TokenStream) := t.map skipLineComment
  if c = endMark then s.fetchEnd
  else if s.source.atMarkOf '-' then s.fetchMark .documentStart
  else if s.source.atMarkOf '.' then s.fetchMark .documentEnd
  else if c = '[' then comment (s.fetchOpening .flowSequence)
  else if c = '\x7b' then comment (s.fetchOpening .flowMapping)
  else if c = ']' then comment (s.fetchClosing .flowSequenceEnd)
  else if c = '\x7d' then comment (s.fetchClosing .flowMappingEnd)
  else if c = ',' then comment s.fetchComma
  else if c = '-' && isGap next then s.fetchDash
  else if c = '?' && (s.inFlow || isGap next) then comment s.fetchKey
  else if c = ':' && (s.inFlow || isGap next) then comment s.fetchValue
  else if (c = '|' || c = '>') && !s.inFlow then s.fetchBlock (c == '|')
  else if c = '\x27' then s.fetchQuoted single
  else if c = '"' then s.fetchQuoted double
  else if startsPlain s.inFlow c next then s.fetchPlain
  else .error (problemIn s.here s.here .noToken)

/-- **One more token.** -/
def fetch (s : TokenStream) : Except Fault TokenStream :=
  let s := s.skipGap
  (s.endBlocks s.here.column).fetchHere

/-! ### Taking tokens -/

def lookahead : Nat := 3

def slotAt (s : TokenStream) (level : Nat) : Slot :=
  ((s.slot :: s.outerSlots).reverse[level]?).getD {}

def needsMore (s : TokenStream) : Except Fault Bool :=
  if s.waiting.length < lookahead then .ok true
  else
    match s.watched.lookup s.passed with
    | none => .ok false
    | some level => (s.slotAt level).isValid s.here

/-- Fetches tokens, at most `fuel` of them, until the first one can be taken. -/
def fill : Nat → TokenStream → Except Fault TokenStream
  | 0, s => .ok s
  | fuel + 1, s => do
      if ← s.needsMore then (← s.fetch).fill fuel else return s

/-- **The first token**, and the stream in which it waits. -/
def peek (s : TokenStream) : Except Fault (Token × TokenStream) := do
  let s ← s.fill (s.size + lookahead + 1)
  return (s.waiting.headD default, s)

/-- **Passes over the first token.** -/
def skip (s : TokenStream) : TokenStream :=
  { s with waiting := s.waiting.drop 1, passed := s.passed + 1 }

end TokenStream

end EventRules.Yaml

/-
**Values of a YAML document.**

A value is a scalar, a sequence or a mapping.  The tokens of a document give its values by a grammar
in which a value may be left out almost everywhere; what is left out is an empty plain scalar.

Outside brackets a sequence is a list of dashes with values, and a mapping a list of keys with
values; both end with the token that ends their block.  A sequence that stands right below the key
it belongs to has no such token: it ends where no further dash follows.  Inside brackets items have
commas between them, and an item of a sequence may be a single key with its value.

Only the first document is read.  What follows it is looked at only as far as needed to see that it
has ended.

Main definitions:

* `Yaml.Node` — a value with the line it stands in;
* `Yaml.blockNode`, `Yaml.flowNode` — a value outside and inside brackets;
* `Yaml.readNode` — the value of a document.
-/

import EventRules.Yaml.Token

set_option relaxedAutoImplicit false
set_option autoImplicit false

namespace EventRules.Yaml

/-- **A value with the line it stands in**, counted from one. -/
inductive Node where
  | scalar (line : Nat) (text : String) (isPlain : Bool)
  | sequence (line : Nat) (items : List Node)
  | mapping (line : Nat) (entries : List (Node × Node))
  deriving Repr, Inhabited

namespace Node

def line : Node → Nat
  | .scalar line _ _ => line
  | .sequence line _ => line
  | .mapping line _ => line

def absent (place : Place) : Node :=
  .scalar (place.line + 1) "" true

end Node

/-- The failure of a document in which a token does not fit, given where the thing starts that it
does not fit into. -/
def misplaced (start : Place) (token : Token) (what : Problem) : Fault :=
  .problem (if start.line ≠ 0 then start.line else token.start.line) what

/-! ### Inside brackets -/

def endsItem (kind : TokenKind) : Bool :=
  kind == .flowEntry || kind == .flowSequenceEnd

def endsEntry (kind : TokenKind) : Bool :=
  kind == .flowEntry || kind == .flowMappingEnd

/-- The first token of an item, behind the comma that stands before all but the first one. -/
def separated (start : Place) (first : Bool) (what : Problem) (token : Token) (s : TokenStream) :
    Except Fault (Token × TokenStream) :=
  if first then .ok (token, s)
  else if token.kind = .flowEntry then s.skip.peek
  else .error (misplaced start token what)

mutual

/-- **A value inside brackets.** -/
def flowNode : Nat → TokenStream → Except Fault (Node × TokenStream)
  | 0, _ => .error (.problem 0 .noContent)
  | fuel + 1, s => do
      let (token, s) ← s.peek
      match token.kind with
      | .scalar text isPlain => return (.scalar (token.start.line + 1) text isPlain, s.skip)
      | .flowSequence =>
          let (items, s) ← flowItems fuel token.start true [] s.skip
          return (.sequence (token.start.line + 1) items, s)
      | .flowMapping =>
          let (entries, s) ← flowEntries fuel token.start true [] s.skip
          return (.mapping (token.start.line + 1) entries, s)
      | _ => .error (misplaced token.start token .noContent)

/-- The items of a sequence in brackets up to the closing one, given those already read in reverse
order; before all but the first there is a comma. -/
def flowItems : Nat → Place → Bool → List Node → TokenStream →
    Except Fault (List Node × TokenStream)
  | 0, _, _, _, _ => .error (.problem 0 .noContent)
  | fuel + 1, start, first, items, s => do
      let (token, s) ← s.peek
      if token.kind = .flowSequenceEnd then return (items.reverse, s.skip)
      else
        let (token, s) ← separated start first .noSequenceEnd token s
        match token.kind with
        | .flowSequenceEnd => return (items.reverse, s.skip)
        | .key =>
            let (entry, s) ← flowPair fuel s.skip
            flowItems fuel start false (.mapping (token.start.line + 1) [entry] :: items) s
        | _ =>
            let (item, s) ← flowNode fuel s
            flowItems fuel start false (item :: items) s

def flowPair : Nat → TokenStream → Except Fault ((Node × Node) × TokenStream)
  | 0, _ => .error (.problem 0 .noContent)
  | fuel + 1, s => do
      let (token, s) ← s.peek
      let (key, s) ←
        if token.kind = .value || endsItem token.kind then .ok (Node.absent token.stop, s.skip)
        else flowNode fuel s
      let (value, s) ← flowValue fuel endsItem s
      let (_, s) ← s.peek
      return ((key, value), s)

/-- The value behind a key, which may be left out; `ends` tells the tokens before which it is. -/
def flowValue : Nat → (TokenKind → Bool) → TokenStream → Except Fault (Node × TokenStream)
  | 0, _, _ => .error (.problem 0 .noContent)
  | fuel + 1, ends, s => do
      let (token, s) ← s.peek
      if token.kind = .value then
        let (next, s) ← s.skip.peek
        if ends next.kind then return (.absent next.start, s) else flowNode fuel s
      else return (.absent token.start, s)

/-- The entries of a mapping in brackets up to the closing one, given those already read in reverse
order; before all but the first there is a comma. -/
def flowEntries : Nat → Place → Bool → List (Node × Node) → TokenStream →
    Except Fault (List (Node × Node) × TokenStream)
  | 0, _, _, _, _ => .error (.problem 0 .noContent)
  | fuel + 1, start, first, entries, s => do
      let (token, s) ← s.peek
      if token.kind = .flowMappingEnd then return (entries.reverse, s.skip)
      else
        let (token, s) ← separated start first .noMappingEnd token s
        match token.kind with
        | .flowMappingEnd => return (entries.reverse, s.skip)
        | .key =>
            let (next, s) ← s.skip.peek
            let (key, s) ←
              if next.kind = .value || endsEntry next.kind then .ok (Node.absent next.start, s)
              else flowNode fuel s
            let (value, s) ← flowValue fuel endsEntry s
            flowEntries fuel start false ((key, value) :: entries) s
        | _ =>
            let (key, s) ← flowNode fuel s
            let (next, s) ← s.peek
            flowEntries fuel start false ((key, .absent next.start) :: entries) s

end

/-! ### Outside brackets -/

def endsBlockEntry (kind : TokenKind) : Bool :=
  kind == .key || kind == .value || kind == .blockEnd

/-- Does an item of a sequence end before this token?  Without a block of its own it also ends
before what ends an entry of a mapping. -/
def endsBlockItem (indentless : Bool) (kind : TokenKind) : Bool :=
  kind == .blockEntry || kind == .blockEnd || (indentless && endsBlockEntry kind)

mutual

/-- **A value outside brackets**; `indentless` says that it may be a sequence without a block of its
own. -/
def blockNode : Nat → Bool → TokenStream → Except Fault (Node × TokenStream)
  | 0, _, _ => .error (.problem 0 .noContent)
  | fuel + 1, indentless, s => do
      let (token, s) ← s.peek
      match token.kind with
      | .blockEntry =>
          if indentless then
            let (items, s) ← blockItems fuel none [] s
            return (.sequence (token.start.line + 1) items, s)
          else .error (misplaced token.start token .noContent)
      | .blockSequence =>
          let (items, s) ← blockItems fuel (some token.start) [] s.skip
          return (.sequence (token.start.line + 1) items, s)
      | .blockMapping =>
          let (entries, s) ← blockEntries fuel token.start [] s.skip
          return (.mapping (token.start.line + 1) entries, s)
      | _ => flowNode fuel s

/-- The items of a sequence, given where its block starts, if it has one, and the items already read
in reverse order. -/
def blockItems : Nat → Option Place → List Node → TokenStream →
    Except Fault (List Node × TokenStream)
  | 0, _, _, _ => .error (.problem 0 .noContent)
  | fuel + 1, start, items, s => do
      let (token, s) ← s.peek
      if token.kind = .blockEntry then
        let (next, s) ← s.skip.peek
        let (item, s) ←
          if endsBlockItem start.isNone next.kind then .ok (Node.absent token.stop, s)
          else blockNode fuel false s
        blockItems fuel start (item :: items) s
      else
        match start with
        | none => return (items.reverse, s)
        | some place =>
            if token.kind = .blockEnd then return (items.reverse, s.skip)
            else .error (misplaced place token .noEntry)

/-- The entries of a mapping, given where its block starts and the entries already read in reverse
order. -/
def blockEntries : Nat → Place → List (Node × Node) → TokenStream →
    Except Fault (List (Node × Node) × TokenStream)
  | 0, _, _, _ => .error (.problem 0 .noContent)
  | fuel + 1, start, entries, s => do
      let (token, s) ← s.peek
      match token.kind with
      | .blockEnd => return (entries.reverse, s.skip)
      | .key =>
          let (key, s) ← blockPart fuel token.stop s.skip
          let (value, s) ← blockValue fuel s
          blockEntries fuel start ((key, value) :: entries) s
      | _ => .error (misplaced start token .noKey)

/-- A key or a value, which may be left out; `place` is where it would be. -/
def blockPart : Nat → Place → TokenStream → Except Fault (Node × TokenStream)
  | 0, _, _ => .error (.problem 0 .noContent)
  | fuel + 1, place, s => do
      let (token, s) ← s.peek
      if endsBlockEntry token.kind then return (.absent place, s) else blockNode fuel true s

/-- The value behind a key, which may be left out. -/
def blockValue : Nat → TokenStream → Except Fault (Node × TokenStream)
  | 0, _ => .error (.problem 0 .noContent)
  | fuel + 1, s => do
      let (token, s) ← s.peek
      if token.kind = .value then blockPart fuel token.stop s.skip
      else return (.absent token.start, s)

end

/-! ### Documents -/

/-- Is there nothing before this token that could be the content of a document? -/
def endsDocument (kind : TokenKind) : Bool :=
  kind == .documentStart || kind == .documentEnd || kind == .streamEnd

/-- The content of a document, behind its mark if it has one, and the first token after it. -/
def readContent (fuel : Nat) (s : TokenStream) : Except Fault (Option Node) := do
  let (token, s) ← s.peek
  if token.kind = .streamEnd then return none
  else if token.kind = .documentStart then
    let (next, s) ← s.skip.peek
    let (node, s) ←
      if endsDocument next.kind then .ok (Node.absent next.start, s) else blockNode fuel false s
    let _ ← s.peek
    return some node
  else
    let (node, s) ← blockNode fuel false s
    let _ ← s.peek
    return some node

/-- **The value of a document**; nothing if it holds none. -/
def readNode (document : Bytes) : Except Fault (Option Node) := do
  let source ← Source.read document
  readContent (8 * source.length + 64) (.start source)

end EventRules.Yaml

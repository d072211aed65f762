/-
**The decompiler.**

A pass takes a list of event documents and a template document.  Documents without content are
skipped.  The elements of all the others are replayed one after the other: each adds its lines at
the current depth and may change the depth or declare a variable.

Only a broken document makes a pass fail, the template before the events, and the events in their
order.  What the pass has done so far stays visible in the decompiler; the next pass starts with
everything but the template cache cleared.

Main definitions:

* `Decompiler`, `Decompiler.reset` — the state of a decompiler;
* `Decompiler.visit`, `Decompiler.replay` — one element, and the elements of a document;
* `Decompiler.decompile`, `decompileEvent` — a whole pass;
* `Decompiled` — its result.
-/

import EventRules.Rule.Element

set_option relaxedAutoImplicit false
set_option autoImplicit false

namespace EventRules

/-- **The result of a pass.** -/
structure Decompiled where
  key : String := ""
  templateName : String := ""
  lines : List Line := []
  deriving DecidableEq, Repr, Inhabited

def Decompiled.text (r : Decompiled) : String :=
  Line.renderAll r.lines

theorem Decompiler.outermost_nonneg : (0 : Int) ≤ 0 :=
  Int.le_refl 0

/-- **The state of a decompiler.**  Its depth is never negative. -/
structure Decompiler where
  cache : TemplateCache := .default
  /-- What the rule has established. -/
  scope : Scope := {}
  lines : List Line := []
  depth : Int := 0
  depth_nonneg : 0 ≤ depth := by exact Decompiler.outermost_nonneg

namespace Decompiler

/-- The number of tabs of a line at the current depth. -/
def indent (d : Decompiler) : Nat :=
  d.depth.toNat

/-- Clears everything but the template cache. -/
def reset (d : Decompiler) : Decompiler :=
  { cache := d.cache }

section

variable {σ : Type}

/-! ### Elements -/

/-- **Replays one element.** -/
def visit (source : Option (Source σ)) (n : Node) (d : Decompiler) (s : σ) : Decompiler × σ :=
  let kind := ElementKind.ofName n.name
  let (lines, shelf) := elementLines source d.scope n ⟨d.cache, s⟩
  let vars :=
    match kind, declaration? n with
    | .declaration, some v => d.scope.vars.declare v
    | _, _ => d.scope.vars
  ({ cache := shelf.cache
     scope := { d.scope with vars := vars }
     lines := d.lines ++ lines.map fun l => ⟨kind.standsAt d.depth + l.depth, l.text⟩
     depth := kind.depthAfter d.depth
     depth_nonneg := kind.depthAfter_nonneg d.depth_nonneg },
    shelf.source)

/-- **Replays elements in order.** -/
def replay (source : Option (Source σ)) : List Node → Decompiler → σ → Decompiler × σ
  | [], d, s => (d, s)
  | n :: rest, d, s =>
      let (d', s') := visit source n d s
      replay source rest d' s'

/-! ### Documents -/

def keyAttr : String := "szEventSpecKey"

/-- The key of an event, from its root or from the marker below it. -/
def eventKey (root : Node) : String :=
  match root.attr [keyAttr] with
  | "" => (root.child? "GBREvent").elim "" (·.attr [keyAttr])
  | key => key

/-- Reads an event document, the `i`-th of its list: its root and its key. -/
def readEvent (i : Nat) (doc : Bytes) : Except Failure (Node × String) :=
  match Document.parse doc with
  | .error fault => .error (.malformed s!"event[{i}]" "event rule" (some (.markup fault)))
  | .ok root =>
      match eventKey root with
      | "" =>
          .error (.malformed s!"event[{i}]" ("no " ++ keyAttr ++ " on root")
            (some (.sentinel .missingEventKey)))
      | key => .ok (root, key)

/-- Replays event documents, the first of which is the `i`-th of the pass, and finds the key of
the first one that is not blank. -/
def replayEvents (source : Option (Source σ)) :
    Nat → List Bytes → Decompiler → σ → Except Failure String × Decompiler × σ
  | _, [], d, s => (.ok "", d, s)
  | i, doc :: docs, d, s =>
      if Document.isBlank doc then replayEvents source (i + 1) docs d s
      else
        match readEvent i doc with
        | .error e => (.error e, d, s)
        | .ok (root, key) =>
            let (d', s') := replay source root.children d s
            match replayEvents source (i + 1) docs d' s' with
            | (.ok _, d'', s'') => (.ok key, d'', s'')
            | (.error e, d'', s'') => (.error e, d'', s'')

/-- Reads the template document; one without content is no template. -/
def readTemplate (doc : Bytes) : Except Failure (Option Template) :=
  if Document.isBlank doc then .ok none
  else
    match Template.parse "template" doc with
    | .ok t => .ok (some t)
    | .error e => .error e

/-- **A whole pass** over event documents with their template. -/
def decompile (source : Option (Source σ)) (events : List Bytes) (template : Bytes)
    (d : Decompiler) (s : σ) : Except Failure Decompiled × Decompiler × σ :=
  match readTemplate template with
  | .error e => (.error e, d.reset, s)
  | .ok primary =>
      let start := { d.reset with scope := { primary := primary } }
      match replayEvents source 0 events start s with
      | (.error e, d', s') => (.error e, d', s')
      | (.ok key, d', s') => (.ok ⟨key, primary.elim "" (·.name), d'.lines⟩, d', s')

end

end Decompiler

def decompileEvent {σ : Type} (source : Option (Source σ)) (event template : Bytes) (s : σ) :
    Except Failure Decompiled × σ :=
  let (result, _, s') := Decompiler.decompile source [event] template {} s
  (result, s')

end EventRules

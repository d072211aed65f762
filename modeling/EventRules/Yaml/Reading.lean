/-
**Reading values as what they are wanted for.**

A value may be read as a text, a number, a list, a dictionary or a record of named fields.  A plain
scalar that stands for nothing gives nothing, whatever is wanted.  A value of the wrong kind gives a
complaint, and so does a key that occurs twice; reading goes on after a complaint, so that all of
them are found.

Main definitions:

* `Yaml.Reading` — what a value gives, with the complaints about it;
* `Yaml.Node.text`, `Yaml.Node.integer`, `Yaml.Node.list`, `Yaml.Node.dictionary`,
  `Yaml.Node.record` — the ways to read a value;
* `Yaml.read` — reading a whole document.
-/

import EventRules.Dictionary
import EventRules.Yaml.Meaning
import EventRules.Yaml.Node

set_option relaxedAutoImplicit false
set_option autoImplicit false

namespace EventRules.Yaml

/-- **What a value gives**, if anything, with the complaints about it. -/
structure Reading (α : Type) where
  value : Option α := none
  complaints : List Complaint := []

def Reading.map {α β : Type} (f : α → β) (r : Reading α) : Reading β :=
  ⟨r.value.map f, r.complaints⟩

namespace Node

def tag : Node → String
  | .scalar _ text isPlain => if isPlain then (meaning text).tag else Meaning.text.tag
  | .sequence _ _ => "!!seq"
  | .mapping _ _ => "!!map"

def scalarText? : Node → Option String
  | .scalar _ text _ => some text
  | _ => none

def isNull : Node → Bool
  | .scalar _ text isPlain => isPlain && meaning text == .null
  | _ => false

/-! ### Keys and kinds -/

def sameKey : Node → Node → Bool
  | .scalar _ s _, .scalar _ t _ => s == t
  | .sequence _ _, .sequence _ _ => true
  | .mapping _ _, .mapping _ _ => true
  | _, _ => false

def duplicates : List (Node × Node) → List Complaint
  | [] => []
  | (key, _) :: rest =>
      (rest.filter fun e => key.sameKey e.1).map
        (fun e => .duplicate e.1.line (e.1.scalarText?.getD "") key.line) ++ duplicates rest

def duplicateKeys : Node → List Complaint
  | .mapping _ entries => duplicates entries
  | _ => []

/-- The reading of a value that is not what is wanted.  If it has a key twice, that is complained
about instead. -/
def unfit {α : Type} (node : Node) (wanted : String) : Reading α :=
  match node.duplicateKeys with
  | [] => { complaints := [.kind node.line node.tag node.scalarText? wanted] }
  | found => { complaints := found }

/-! ### Scalars -/

/-- **The value read as a text.**  Every scalar that stands for something is one. -/
def text (node : Node) : Reading String :=
  match node with
  | .scalar _ text _ => if node.isNull then {} else { value := some text }
  | _ => node.unfit "string"

/-- **The value read as a whole number.** -/
def integer (node : Node) : Reading Int :=
  match node with
  | .scalar _ text isPlain =>
      if node.isNull then {}
      else
        match if isPlain then (meaning text).whole? else none with
        | some n => { value := some n }
        | none => node.unfit "int"
  | _ => node.unfit "int"

/-! ### Collections -/

/-- **The value read as a list**, whose items are read by `item`; items that give nothing are left
out.  Nothing is read as no list at all. -/
def list {α : Type} (wanted : String) (item : Node → Reading α) (node : Node) :
    Reading (Option (List α)) :=
  match node with
  | .sequence _ nodes =>
      let items := nodes.map item
      ⟨some (some (items.filterMap Reading.value)), items.flatMap Reading.complaints⟩
  | node => if node.isNull then { value := some none } else node.unfit wanted

/-- Is the key the sign for merging mappings?  Merging is not supported. -/
def isMerge : Node → Bool
  | .scalar _ text isPlain => isPlain && meaning text == .merge
  | _ => false

/-- Reads the entries of a mapping in order into something; a key that stands for nothing is passed
over. -/
def foldEntries {α : Type} (step : α → String → Node → Reading α) :
    α → List (Node × Node) → Reading α
  | a, [] => { value := some a }
  | a, (key, node) :: rest =>
      if key.isMerge then
        let after := foldEntries step a rest
        { after with complaints := .merge :: after.complaints }
      else
        let name := key.text
        let next := match name.value with
          | some n => step a n node
          | none => { value := some a }
        let after := foldEntries step (next.value.getD a) rest
        { after with complaints := name.complaints ++ next.complaints ++ after.complaints }

/-- The value read as a mapping, entry by entry. -/
def fold {α : Type} (wanted : String) (step : α → String → Node → Reading α) (empty : α)
    (node : Node) : Reading α :=
  match node with
  | .mapping _ entries =>
      match duplicates entries with
      | [] => foldEntries step empty entries
      | found => { complaints := found }
  | node => if node.isNull then {} else node.unfit wanted

/-- **The value read as a dictionary**, whose values are read by `item`; one that gives nothing is
`missing`. -/
def dictionary {α : Type} (wanted : String) (item : Node → Reading α) (missing : α) (node : Node) :
    Reading (Dictionary α) :=
  node.fold wanted
    (fun d name v =>
      let r := item v
      ⟨some (d.insert name (r.value.getD missing)), r.complaints⟩) []

/-- A field of a record that is read by `item`: a value that gives nothing leaves the record as it
is. -/
def field {α β : Type} (item : Node → Reading β) (set : β → α) (node : Node) : Reading α :=
  (item node).map set

/-- **The value read as a record.**  `field?` tells how the fields that it knows are read; others
are passed over, whatever they hold. -/
def record {α : Type} (wanted : String) (field? : α → String → Option (Node → Reading α))
    (empty : α) (node : Node) : Reading α :=
  node.fold wanted (fun a name v => (field? a name).elim { value := some a } (· v)) empty

end Node

/-! ### Documents -/

/-- **Reads a document.**  One that gives nothing gives `empty`. -/
def read {α : Type} (wanted : Node → Reading α) (empty : α) (document : Bytes) :
    Except Fault α := do
  match ← readNode document with
  | none => return empty
  | some node =>
      let r := wanted node
      if r.complaints.contains .merge then .error .merge
      else if r.complaints.isEmpty then return r.value.getD empty
      else .error (.complaints r.complaints)

end EventRules.Yaml

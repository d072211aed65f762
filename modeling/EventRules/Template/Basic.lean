/-
**Data structure templates.**

Event rules refer to the fields of their data by number.  A template is made up of these fields:
each item has an id, a data item, a name and a place in the display order.  Of several
items with the same id the first one counts.

A template keeps its items twice over: under their ids, where they are looked up, and in document
order, as the list of their ids.  One insertion adds to both.

A template document describes its items anywhere below the element that carries the template's
name; that element is the root or the root's first child.

Main definitions:

* `TemplateItem`, `TemplateItem.label` — a field, and how it is shown;
* `TemplateIndex` — the items of a template in both ways;
* `Template`, `Template.get?`, `Template.items`, `Template.length` — a template and what it answers;
* `Template.empty`, `Template.add`, `Template.ofItems` — no items, one more, and a list of items;
* `Template.ofNode`, `Template.parse` — reading a template from a document.
-/

import EventRules.Dictionary
import EventRules.Failure
import EventRules.Numeral.Integer
import EventRules.Markup.Reader

set_option relaxedAutoImplicit false
set_option autoImplicit false

namespace EventRules

structure TemplateItem where
  id : String := ""
  dataItem : String := ""
  name : String := ""
  displaySeq : Int := 0
  /-- Whether the field is passed in, out or both. -/
  copyWord : String := ""
  deriving DecidableEq, Repr, Inhabited

/-- How an item is shown: its name, and the data item in brackets. -/
def TemplateItem.label (i : TemplateItem) : String :=
  i.name ++ " [" ++ i.dataItem ++ "]"

/-- **The items of a template**: each under its id, and the ids in document order. -/
structure TemplateIndex where
  byId : Dictionary TemplateItem := []
  order : List String := []
  deriving DecidableEq, Repr, Inhabited

/-- The empty list stands for no items. -/
instance {α : Type} : CoeDep (List α) [] TemplateIndex := ⟨{}⟩

/-- **A data structure template.** -/
structure Template where
  name : String
  description : String
  index : TemplateIndex
  deriving DecidableEq, Repr, Inhabited

namespace Template

def empty (name description : String) : Template :=
  ⟨name, description, []⟩

def get? (t : Template) (id : String) : Option TemplateItem :=
  t.index.byId.get? id

/-- The items in document order.  An id without an item would show as a blank one. -/
def items (t : Template) : List TemplateItem :=
  t.index.order.map fun id => (t.get? id).getD {}

def length (t : Template) : Nat :=
  t.index.order.length

/-- **Adds an item**, unless its id is taken. -/
def add (t : Template) (i : TemplateItem) : Template :=
  if (t.get? i.id).isSome then t
  else { t with index := ⟨t.index.byId.insert i.id i, t.index.order ++ [i.id]⟩ }

/-- The template with the given items; of several items with one id the first is kept. -/
def ofItems (name description : String) (items : List TemplateItem) : Template :=
  items.foldl add (empty name description)

def itemOfNode (n : Node) : TemplateItem where
  id := n.attr ["idItem", "idItemID"]
  dataItem := n.attr ["szDict"]
  name := n.attr ["szItemName", "szName"]
  displaySeq := Numeral.lenient (n.attr ["idDisplaySeq", "wDisplaySeq"])
  copyWord := n.attr ["wCopyWord"]

/-- The visit that collects items: elements without an id describe none. -/
def itemVisit (t : Template) (n : Node) : Template × Bool :=
  if (itemOfNode n).id = "" then (t, true) else (t.add (itemOfNode n), true)

/-- The failure of a template document, which `label` names in the message. -/
def malformed (label reason : String) : Failure :=
  .malformed label reason (some (.sentinel .malformedTemplate))

def top? (root : Node) : Option Node :=
  if root.hasAttr "szTmplName" then some root else root.firstChild?

/-- **The template that a document describes**, given its root. -/
def ofNode (label : String) (root : Node) : Except Failure Template :=
  match top? root with
  | none => .error (malformed label "no template root element")
  | some top =>
      let name := top.attr ["szTmplName"]
      if name = "" then .error (malformed label "template root has no szTmplName")
      else .ok (top.walkBelow itemVisit (empty name (top.attr ["szDesc"])))

/-- **The template that a document describes.**  A document that cannot be read is a malformed
template, whatever is wrong with it. -/
def parse (label : String) (doc : Bytes) : Except Failure Template :=
  match Document.parse doc with
  | .error fault =>
      .error (.malformed label "template"
        (some (.within "" (.sentinel .malformedTemplate) (": " ++ fault.message))))
  | .ok root => ofNode label root

end Template

end EventRules

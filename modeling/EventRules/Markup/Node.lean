/-
**Element trees.**

A document is read into a tree of elements.  An element has a name, its attributes, its child
elements in order, and the text that stands directly inside it, all pieces run together; comments
and instructions leave no trace.

Everything that looks into a tree is a *walk*: a fold over the nodes, parents first, in which each
visit also says whether the children are to be visited.  The searches stop early by refusing every
node after the one they were looking for.

Main definitions:

* `Node` — an element with everything in it;
* `Node.attr`, `Node.hasAttr`, `Node.child?`, `Node.childrenNamed` — what one element shows;
* `Node.walk`, `Node.walkBelow` — the fold, with or without the node it starts from;
* `Node.find?`, `Node.findAll`, `Node.visited` — searches by walking;
* `Node.inOrder` — a node and its descendants in the order of the document.
-/

import EventRules.Dictionary

set_option relaxedAutoImplicit false
set_option autoImplicit false

namespace EventRules

abbrev Attributes := Dictionary String

/-- **An element of a document.** -/
structure Node where
  name : String
  attrs : Attributes
  children : List Node
  text : String
  deriving Inhabited

namespace Node

/-! ### One element -/

/-- The value of the first listed attribute that is present and not empty, or nothing. -/
def attr (n : Node) : List String → String
  | [] => ""
  | name :: names =>
      match n.attrs.get? name with
      | some "" => n.attr names
      | some value => value
      | none => n.attr names

/-- Is the attribute present, be it empty? -/
def hasAttr (n : Node) (name : String) : Bool :=
  (n.attrs.get? name).isSome

def child? (n : Node) (name : String) : Option Node :=
  n.children.find? (·.name == name)

/-- The children with the given name, in order. -/
def childrenNamed (n : Node) (name : String) : List Node :=
  n.children.filter (·.name == name)

def firstChild? (n : Node) : Option Node :=
  n.children.head?

/-! ### Walks -/

mutual

/-- **Walks through a node and its descendants**, parents first.  Each visit changes the state and
says whether the walk goes on into the children of the visited node. -/
def walk {σ : Type} (visit : σ → Node → σ × Bool) (s : σ) : Node → σ
  | ⟨name, attrs, children, text⟩ =>
      let visited := visit s ⟨name, attrs, children, text⟩
      if visited.2 then walkAll visit visited.1 children else visited.1

def walkAll {σ : Type} (visit : σ → Node → σ × Bool) (s : σ) : List Node → σ
  | [] => s
  | n :: rest => walkAll visit (walk visit s n) rest

end

/-- Walks through the descendants of a node, without the node itself. -/
def walkBelow {σ : Type} (visit : σ → Node → σ × Bool) (s : σ) (n : Node) : σ :=
  walkAll visit s n.children

/-- The visit of a search: keeps the first node that satisfies `p` and refuses everything after. -/
def searchVisit (p : Node → Bool) (found : Option Node) (n : Node) : Option Node × Bool :=
  if found.isSome then (found, false) else if p n then (some n, false) else (none, true)

/-- The first proper descendant, in document order, that satisfies `p`. -/
def search? (p : Node → Bool) (n : Node) : Option Node :=
  walkBelow (searchVisit p) none n

def find? (n : Node) (name : String) : Option Node :=
  n.search? (·.name == name)

/-- All proper descendants with the given name, in document order. -/
def findAll (n : Node) (name : String) : List Node :=
  (walkBelow (fun found d => (if d.name == name then d :: found else found, true)) [] n).reverse

/-- The nodes that a walk from `n` visits if it refuses the children of the nodes that satisfy
`refuse`. -/
def visited (refuse : Node → Bool) (n : Node) : List Node :=
  (walk (fun seen d => (d :: seen, !refuse d)) [] n).reverse

/-! ### Document order -/

mutual

/-- A node followed by its descendants, in the order of the document. -/
def inOrder : Node → List Node
  | ⟨name, attrs, children, text⟩ => ⟨name, attrs, children, text⟩ :: inOrderAll children

/-- The nodes of a list with their descendants, in the order of the document. -/
def inOrderAll : List Node → List Node
  | [] => []
  | n :: rest => inOrder n ++ inOrderAll rest

end

mutual

/-- A node and its descendants in document order, each with its depth. -/
def inOrderWithDepth (depth : Nat) : Node → List (Nat × Node)
  | ⟨name, attrs, children, text⟩ =>
      (depth, ⟨name, attrs, children, text⟩) :: inOrderWithDepthAll (depth + 1) children

def inOrderWithDepthAll (depth : Nat) : List Node → List (Nat × Node)
  | [] => []
  | n :: rest => inOrderWithDepth depth n ++ inOrderWithDepthAll depth rest

end

/-- The proper descendants of a node, in document order. -/
def descendants (n : Node) : List Node :=
  inOrderAll n.children

@[simp] theorem attr_nil (n : Node) : n.attr [] = "" := rfl

theorem inOrder_eq (n : Node) : n.inOrder = n :: n.descendants := by
  cases n; simp [inOrder, descendants]

end Node

end EventRules

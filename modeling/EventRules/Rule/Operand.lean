/-
**Operands.**

The sides of assignments, comparisons and parameter lists are operands: a member of a template, an
event variable, a literal, a system variable or a constant.  An operand is an element below its
container, at any depth; the first one in document order counts.

Descriptions mark some operands with a two-letter qualifier, which stays in front of whatever the
operand is resolved to.

Main definitions:

* `OperandKind`, `Operand`, `Operand.classify`, `Operand.inside` — operands and where they are;
* `splitQualifier`, `withQualifier` — qualifiers;
* `Operand.rawText` — the text of an operand that cannot be resolved.
-/

import EventRules.Markup.Node
import EventRules.Text.Search
import EventRules.Text.Space

set_option relaxedAutoImplicit false
set_option autoImplicit false

namespace EventRules

/-! ### Kinds of operands -/

/-- **The kind of an operand.** -/
inductive OperandKind where
  | unknown
  | member
  | eventVariable
  | literal
  | systemVariable
  | namedConstant
  deriving DecidableEq, Repr, Inhabited

namespace OperandKind

def all : List OperandKind :=
  [.unknown, .member, .eventVariable, .literal, .systemVariable, .namedConstant]

def number : OperandKind → Nat
  | .unknown => 0
  | .member => 1
  | .eventVariable => 2
  | .literal => 3
  | .systemVariable => 4
  | .namedConstant => 5

def name : OperandKind → String
  | .unknown => "unknown"
  | .member => "member"
  | .eventVariable => "variable"
  | .literal => "literal"
  | .systemVariable => "system_variable"
  | .namedConstant => "constant"

/-- The kind with the given number; unknown if there is none. -/
def ofNumber (n : Int) : OperandKind :=
  (all.find? fun k => (k.number : Int) == n).getD .unknown

def ofElement (name : String) : OperandKind :=
  match name with
  | "DSOBJMember" => .member
  | "DSOBJVariable" => .eventVariable
  | "DSOBJLiteral" => .literal
  | "DSOBJSystemVariable" => .systemVariable
  | "DSOBJConstant" => .namedConstant
  | _ => .unknown

end OperandKind

/-- **An operand**: its kind and its element. -/
structure Operand where
  kind : OperandKind
  node : Option Node

namespace Operand

def classify : Option Node → Operand
  | none => ⟨.unknown, none⟩
  | some n => ⟨.ofElement n.name, some n⟩

/-- **The first operand inside a container**, in document order. -/
def inside (container : Option Node) : Operand :=
  classify (container.bind (·.search? fun n => OperandKind.ofElement n.name != .unknown))

def attr (op : Operand) (names : List String) : String :=
  op.node.elim "" (·.attr names)

end Operand

/-! ### Qualifiers -/

/-- The qualifiers: business function, variable, system variable, constant. -/
def qualifiers : List (List Char) :=
  [['B', 'F'], ['V', 'A'], ['S', 'V'], ['C', 'O']]

/-- The qualifier at the start of a text and what follows it; an empty qualifier and the whole text
if there is none. -/
def splitQualifier (text : String) : String × String :=
  match text.toList with
  | a :: b :: ' ' :: rest =>
      if qualifiers.contains [a, b] then
        (String.ofList [a, b], String.ofList (rest.dropWhile (· == ' ')))
      else ("", text)
  | _ => ("", text)

/-- A label behind the qualifier of a text, if that has one. -/
def withQualifier (text label : String) : String :=
  match (splitQualifier text).1 with
  | "" => label
  | q => q ++ " " ++ label

def namingAttrs : List String :=
  ["szName", "szVarName", "idSysVar", "idConstant", "szValue"]

/-! ### Text of operands -/

/-- The value of a literal as its element gives it; texts are quoted. -/
def literalValue (n : Node) : String :=
  match n.attr ["szValue"] with
  | "" =>
      match n.firstChild? with
      | none => Text.trim n.text
      | some inner =>
          let value :=
            match inner.attr ["szValue", "value"] with
            | "" => Text.trim inner.text
            | v => v
          if inner.name = "LiteralString" then "\"" ++ value ++ "\"" else value
  | v => v

/-- **The text of an operand as its element gives it**, for want of a description. -/
def Operand.rawText (op : Operand) : String :=
  match op.node with
  | none => ""
  | some n =>
      match op.kind with
      | .member =>
          match n.attr ["szDict"] with
          | "" => "#" ++ n.attr ["idItem"]
          | item => item
      | .eventVariable =>
          match n.attr ["szDict"] with
          | "" => "VA #" ++ n.attr ["idVariable"]
          | item => "VA " ++ item
      | .literal => literalValue n
      | .systemVariable => n.attr namingAttrs
      | .namedConstant => n.attr namingAttrs
      | .unknown => n.attr ["szName", "szDict"]

end EventRules

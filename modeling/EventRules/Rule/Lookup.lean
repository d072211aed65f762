/-
**Looking things up while a rule is read.**

Reading a rule changes two things outside of the rule: the cache of templates and the state of the
metadata source.  Together they are the *shelf*.  What the rule itself has established so far, its
own template and its variables, is the *scope*; lookups read it and do not change it.

A name of a template means the rule's own template if it is that template's name up to letter case,
and otherwise a template from the shelf.  A failure to find it is no failure of the rule: whatever
cannot be resolved keeps the text that the document gives.

Main definitions:

* `Scope`, `Shelf`, `Lookup`;
* `namedTemplate`, `member?` — templates and their items;
* `resolveOperand`, `parameterLabel`, `operandItem` — operands as they are shown.
-/

import EventRules.Metadata.Source
import EventRules.Rule.Operand
import EventRules.Rule.Variables
import EventRules.Template.Cache
import EventRules.Text.Entity

set_option relaxedAutoImplicit false
set_option autoImplicit false

namespace EventRules

/-- **What the rule has established so far.** -/
structure Scope where
  /-- The template that came with the rule. -/
  primary : Option Template := none
  vars : Variables := []

/-- **What lookups use and change**: the cached templates and the state of the source. -/
structure Shelf (σ : Type) where
  cache : TemplateCache
  source : σ

abbrev Lookup (σ α : Type) := StateM (Shelf σ) α

section

variable {σ : Type}

/-! ### Templates -/

/-- Loads a template from the source; without a source none is found. -/
def loadTemplate (source : Option (Source σ)) (name : String) (s : σ) :
    Except Failure (Option Template) × σ :=
  match source with
  | none => (.error (.because ("template " ++ name) (.sentinel .notFound)), s)
  | some src => src.template name s

def Scope.owns (scope : Scope) (name : String) : Bool :=
  scope.primary.elim false fun t => Text.sameFolded name t.name

/-- **The template with the given name**, if it can be found. -/
def namedTemplate (source : Option (Source σ)) (scope : Scope) (name : String) :
    Lookup σ (Option Template) :=
  fun shelf =>
    if name = "" then (none, shelf)
    else if scope.owns name then (scope.primary, shelf)
    else
      match shelf.cache.getOrLoad name (loadTemplate source name) shelf.source with
      | (.ok t, cache, s) => (t, ⟨cache, s⟩)
      | (.error _, cache, s) => (none, ⟨cache, s⟩)

/-- The item that a member refers to.  A member that names a template is looked for in that
template only, as ids mean different items in different templates. -/
def member? (source : Option (Source σ)) (scope : Scope) (n : Node) :
    Lookup σ (Option TemplateItem) := do
  match n.attr ["szTmplName"] with
  | "" => return scope.primary.bind (·.get? (n.attr ["idItem"]))
  | name =>
      let template ← namedTemplate source scope name
      return template.bind (·.get? (n.attr ["idItem"]))

/-! ### Operands -/

def qualifiedText (qualifier : String) (n : Node) (fallback : String) : String :=
  qualifier ++ " " ++
    match (splitQualifier fallback).2 with
    | "" => n.attr namingAttrs
    | text => text

/-- **An operand as it is shown.**  `fallback` is the text that the document gives for it, and
`decode` says whether references in a literal are to be resolved. -/
def resolveOperand (source : Option (Source σ)) (scope : Scope) (op : Operand) (fallback : String)
    (decode : Bool) : Lookup σ String :=
  match op.kind, op.node with
  | .member, some n => do
      match ← member? source scope n with
      | some item => return withQualifier fallback item.label
      | none => return fallback
  | .eventVariable, some n =>
      match scope.vars.resolve? (n.attr ["idVariable"]) with
      | some v => return withQualifier fallback v.displayName
      | none => return fallback
  | .literal, _ => return if decode then Text.unescape fallback else fallback
  | .systemVariable, some n => return qualifiedText "SV" n fallback
  | .namedConstant, some n => return qualifiedText "CO" n fallback
  | _, _ => return fallback

/-- An operand in a parameter list, where no description is given. -/
def parameterLabel (source : Option (Source σ)) (scope : Scope) (op : Operand) :
    Lookup σ String :=
  resolveOperand source scope op op.rawText true

/-- The data item behind a variable: as declared, or else as the reference itself says. -/
def variableItem (vars : Variables) (n : Node) : String :=
  match (vars.resolve? (n.attr ["idVariable"])).elim "" (·.dataItem) with
  | "" => n.attr ["szDict"]
  | item => item

/-- The data item behind a member or variable; empty for other operands and failed lookups. -/
def operandItem (source : Option (Source σ)) (scope : Scope) (op : Operand) : Lookup σ String :=
  match op.kind, op.node with
  | .member, some n => do
      return (← member? source scope n).elim "" (·.dataItem)
  | .eventVariable, some n => return variableItem scope.vars n
  | _, _ => return ""

end

end EventRules

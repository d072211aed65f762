/-
**The elements of an event rule.**

An event rule is a sequence of elements.  Most of them are one statement and become one line; a
condition becomes one line for each of its clauses, and table operations and calls have a line for
each parameter below them.  Conditions open a block, the end elements close one, and an `Else` does
both.

The lines of an element are relative to the depth at which the element stands: zero for the
statement itself, one for its parameters.

Main definitions:

* `ElementKind`, `ElementKind.standsAt`, `ElementKind.depthAfter` — what elements do to depth;
* `assignmentText`, `conditionLines`, `tableLines`, `callLines` — statements;
* `elementLines` — the lines of any element;
* `declaration?` — the variable that an element declares.
-/

import EventRules.Rule.Comparison
import EventRules.Rule.Criteria
import EventRules.Rule.Line
import EventRules.Rule.Lookup

set_option relaxedAutoImplicit false
set_option autoImplicit false

namespace EventRules

/-! ### Kinds of elements -/

/-- **The kind of an element of a rule.** -/
inductive ElementKind where
  | declaration
  | assignment
  /-- A statement that comes as text. -/
  | statement
  | comment
  | tableOperation
  | condition
  | call
  | endIf
  | endWhile
  /-- The other branch of a block. -/
  | otherwise
  /-- Anything else; it leaves no trace. -/
  | ignored
  deriving DecidableEq, Repr

/-- One level up; the outermost level is never left. -/
def dedent (depth : Int) : Int :=
  if 0 < depth then depth - 1 else depth

theorem dedent_nonneg {depth : Int} (h : 0 ≤ depth) : 0 ≤ dedent depth := by
  unfold dedent
  split <;> omega

namespace ElementKind

def ofName (name : String) : ElementKind :=
  match name with
  | "GBRVAR" => .declaration
  | "GBRASSIGN" => .assignment
  | "GBRSLBF" => .statement
  | "GBRCOMMENT" => .comment
  | "GBRFileIOOp" => .tableOperation
  | "GBRCRIT" => .condition
  | "GBRBF" => .call
  | "GBREndIf" => .endIf
  | "GBREndWhile" => .endWhile
  | "GBRElse" => .otherwise
  | _ => .ignored

def closesBlock : ElementKind → Bool
  | .endIf => true
  | .endWhile => true
  | .otherwise => true
  | _ => false

def opensBlock : ElementKind → Bool
  | .condition => true
  | .otherwise => true
  | _ => false

def standsAt (kind : ElementKind) (depth : Int) : Int :=
  if kind.closesBlock then dedent depth else depth

def depthAfter (kind : ElementKind) (depth : Int) : Int :=
  if kind.opensBlock then kind.standsAt depth + 1 else kind.standsAt depth

theorem standsAt_nonneg (kind : ElementKind) {depth : Int} (h : 0 ≤ depth) :
    0 ≤ kind.standsAt depth := by
  unfold standsAt
  split
  · exact dedent_nonneg h
  · exact h

theorem depthAfter_nonneg (kind : ElementKind) {depth : Int} (h : 0 ≤ depth) :
    0 ≤ kind.depthAfter depth := by
  have hstands := kind.standsAt_nonneg h
  unfold depthAfter
  split <;> omega

end ElementKind

/-! ### Declarations -/

/-- The variable that an element declares, by the first variable inside it or by its own
attributes; nothing if no id is given. -/
def declaration? (n : Node) : Option EventVariable :=
  let v := (n.find? "DSOBJVariable").getD n
  let names := ["szVarName", "szName"]
  match v.attr ["idVariable"] with
  | "" => none
  | id =>
      let item := v.attr ["szDict"]
      let name :=
        match n.attr names with
        | "" =>
            match v.attr names with
            | "" => item
            | name => name
        | name => name
      some ⟨id, if item = "" then name else name ++ " [" ++ item ++ "]", item⟩

section

variable {σ : Type}

/-! ### Assignments -/

def splitAssignment (text : String) : String × String :=
  let (target, value) := Text.cut '=' text
  (Text.trim target, Text.trim (value.getD ""))

def assignmentTarget (source : Option (Source σ)) (scope : Scope) (op : Operand)
    (target : String) : Lookup σ String := do
  match ← operandItem source scope op with
  | "" => return target ++ " = "
  | item => return target ++ " [" ++ item ++ "] = "

def assignmentValue (source : Option (Source σ)) (scope : Scope) (op : Operand)
    (value : String) : Lookup σ String := do
  if op.kind = .literal then return Text.unescape value
  else
    match ← operandItem source scope op with
    | "" => return value
    | item => return value ++ " [" ++ item ++ "]"

/-- **The text of an assignment.** -/
def assignmentText (source : Option (Source σ)) (scope : Scope) (n : Node) : Lookup σ String := do
  let (target, value) := splitAssignment (n.attr ["textString"])
  let left ← assignmentTarget source scope (Operand.inside (n.child? "ObjTo")) target
  let right ← assignmentValue source scope (Operand.inside (n.child? "ObjFrom")) value
  return left ++ right

/-! ### Conditions -/

inductive BlockKeyword where
  | ifBlock
  | whileBlock
  deriving DecidableEq, Repr

def BlockKeyword.text : BlockKeyword → String
  | .ifBlock => "If"
  | .whileBlock => "While"

def blockKeyword (n : Node) : BlockKeyword :=
  if Text.contains "WHILE" (Text.upper (n.attr ["type"])) then .whileBlock else .ifBlock

def clauseKeywords : List (List Char) :=
  ["If".toList, "While".toList, "and".toList, "or".toList]

/-- If a clause starts with the word, followed by a blank or nothing, what follows it. -/
def afterKeyword? (word cs : List Char) : Option (List Char) :=
  match Phrase.wordLength? (word.map Text.foldChar) cs with
  | none => none
  | some n =>
      match cs.drop n with
      | [] => some []
      | c :: rest => if c = ' ' ∨ c = '\t' then some (Text.trimChars (c :: rest)) else none

/-- The word that introduces a clause, in its usual spelling, and the rest of the clause; the
block's keyword if there is none. -/
def splitKeyword (block : BlockKeyword) (cs : List Char) : String × String :=
  match clauseKeywords.findSome? fun w => (afterKeyword? w cs).map (w, ·) with
  | some (word, rest) => (String.ofList word, String.ofList rest)
  | none => (block.text, String.ofList cs)

def dropTrailingSpaces (s : String) : String :=
  String.ofList ((s.toList.reverse.dropWhile (· == ' ')).reverse)

/-- **One clause of a condition.**  It is divided at the phrase of its comparison; a clause that
does not contain that phrase stays as it is. -/
def conditionText (source : Option (Source σ)) (scope : Scope) (block : BlockKeyword)
    (clause : String) (node : Node) : Lookup σ String := do
  let comparison := Comparison.ofCode (node.attr ["eCompType"])
  match comparison.pattern.split? clause.toList with
  | none => return clause
  | some (before, after) =>
      let (keyword, subjectText) := splitKeyword block (Text.trimChars before)
      let predicateText := String.ofList (Text.trimChars after)
      let subject ← resolveOperand source scope (Operand.inside (node.child? "zSubject"))
        subjectText false
      let predicate ← resolveOperand source scope (Operand.inside (node.child? "zPredicate"))
        predicateText true
      return dropTrailingSpaces
        (keyword ++ " " ++ subject ++ " " ++ comparison.phrase ++ " " ++ predicate)

/-- The clauses of a condition, each with its comparison. -/
def conditionClauses (n : Node) : List (String × Node) :=
  (Criteria.split (n.attr ["lpszCritDesc"])).zip (n.findAll "CRE_NODE")

/-- **The lines of a condition**: one for each clause that has a comparison. -/
def conditionLines (source : Option (Source σ)) (scope : Scope) (n : Node) :
    Lookup σ (List Line) :=
  (conditionClauses n).mapM fun c =>
    return ⟨0, ← conditionText source scope (blockKeyword n) c.1 c.2⟩

/-! ### Table operations -/

def operationNames : List (String × String) :=
  [("FETCH_SINGLE", "FetchSingle"), ("FETCH_NEXT", "FetchNext"), ("SELECT", "Select"),
    ("DELETE", "Delete"), ("UPDATE", "Update"), ("INSERT", "Insert")]

/-- The display name of a table operation; a code that is not known loses its underscores. -/
def operationName (code : String) : String :=
  match operationNames.lookup (Text.upper code) with
  | some name => name
  | none => Text.replaceAll "_" "" code

def tableArrow (copyWord : String) : String :=
  match catalogKey copyWord with
  | "IN" => "->"
  | "OUT" => "<-"
  | _ => "="

def tableName (n : Node) : String :=
  let names := ["szFileName", "szTable"]
  match (n.find? "DSOBJFileIO").elim "" (·.attr names) with
  | "" => n.attr names
  | table => table

def parameterItem (p : Node) : String :=
  (p.find? "DSItem").elim "" (·.attr ["szDict", "szDataItem"])

/-- The key columns of the index with the given number, if everything about it is known. -/
def indexKeys (source : Source σ) (table index : String) : Lookup σ (List String) :=
  fun shelf =>
    match Numeral.strict? index with
    | none => ([], shelf)
    | some id =>
        match source.indexes table shelf.source with
        | (.error _, s) => ([], { shelf with source := s })
        | (.ok indexes, s) =>
            let found := (indexes.getD []).find? (·.id == id)
            ((found.bind (·.keyColumns)).getD [], { shelf with source := s })

/-- The titles of data items; none if there is nothing to ask for or the question fails. -/
def itemTitles (source : Source σ) (items : List String) : Lookup σ (Dictionary String) :=
  fun shelf =>
    if items.isEmpty then ([], shelf)
    else
      match source.titles items shelf.source with
      | (.error _, s) => ([], { shelf with source := s })
      | (.ok titles, s) => (titles, { shelf with source := s })

def tableHeader (source : Source σ) (n : Node) : Lookup σ String := do
  let table := tableName n
  let header := table ++ "." ++ operationName (n.attr ["operation"])
  match Text.trim (n.attr ["indexId"]) with
  | "" => return header
  | index =>
      match ← indexKeys source table index with
      | [] => return header
      | keys => return header ++ " Index " ++ index ++ ": " ++ Text.join ", " keys

def tableParameterText (source : Source σ) (scope : Scope) (titles : Dictionary String)
    (p : Node) : Lookup σ String := do
  let label ← parameterLabel (some source) scope (Operand.inside (some p))
  let item := parameterItem p
  let title :=
    match (titles.get? item).getD "" with
    | "" => item
    | title => title
  return label ++ " " ++ tableArrow (p.attr ["wCopyWord"]) ++ " " ++ title ++ " [" ++ item ++ "]"

/-- **The lines of a table operation**: a header and one line for each parameter. -/
def tableLines (source : Source σ) (scope : Scope) (n : Node) : Lookup σ (List Line) := do
  let header ← tableHeader source n
  let parameters := n.findAll "GBRParam"
  let titles ← itemTitles source ((parameters.map parameterItem).filter (· != ""))
  let lines ← parameters.mapM fun p => return ⟨1, ← tableParameterText source scope titles p⟩
  return ⟨0, header⟩ :: lines

/-! ### Calls -/

def callArrow (copyWord : String) : String :=
  match catalogKey copyWord with
  | "OUT" => "<-"
  | "INOUT" => "<->"
  | _ => "->"

/-- The module of a business function; the name of its template if it is not known. -/
def functionModule (source : Source σ) (template : String) : Lookup σ String :=
  fun shelf =>
    match source.functionObject template shelf.source with
    | (.ok "", s) => (template, { shelf with source := s })
    | (.ok object, s) => (object, { shelf with source := s })
    | (.error _, s) => (template, { shelf with source := s })

/-- The line of a call's parameter; `callee` is the template of the called function. -/
def callParameterText (source : Source σ) (scope : Scope) (callee : Option Template) (p : Node) :
    Lookup σ String := do
  let label ← parameterLabel (some source) scope (Operand.inside (some p))
  let id := p.attr ["idItem"]
  let name := (callee.bind (·.get? id)).elim id (·.label)
  return label ++ " " ++ callArrow (p.attr ["wCopyWord"]) ++ " " ++ name

/-- **The lines of a call**: a header and one line for each parameter. -/
def callLines (source : Source σ) (scope : Scope) (n : Node) : Lookup σ (List Line) := do
  let function := n.attr ["szFuncName"]
  let template := n.attr ["szTmplName"]
  let object ← functionModule source template
  let callee ← namedTemplate (some source) scope template
  let lines ← (n.findAll "ERPARAM").mapM fun p =>
    return ⟨1, ← callParameterText source scope callee p⟩
  return ⟨0, function ++ "(" ++ object ++ "." ++ function ++ ")"⟩ :: lines

/-! ### All elements -/

def stripLineBreaks (s : String) : String :=
  String.ofList (s.toList.filter fun c => c != '\r' && c != '\n')

/-- **The lines of an element**, relative to its depth.  Table operations and calls can only be
shown with a source. -/
def elementLines (source : Option (Source σ)) (scope : Scope) (n : Node) : Lookup σ (List Line) :=
  match ElementKind.ofName n.name, source with
  | .assignment, _ => do return [⟨0, ← assignmentText source scope n⟩]
  | .statement, _ => return [⟨0, Text.unescape (n.attr ["summary_text"])⟩]
  | .comment, _ => return [⟨0, stripLineBreaks (n.attr ["comment_text"])⟩]
  | .tableOperation, some src => tableLines src scope n
  | .condition, _ => conditionLines source scope n
  | .call, some src => callLines src scope n
  | .endIf, _ => return [⟨0, "End If"⟩]
  | .endWhile, _ => return [⟨0, "End While"⟩]
  | .otherwise, _ => return [⟨0, "Else"⟩]
  | _, _ => return []

end

end EventRules

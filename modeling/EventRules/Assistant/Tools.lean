/-
**Tools and resources for assistants.**

An assistant program can use the decompiler through two tools, one that decompiles a rule and one
that searches for templates, and it can read two resources, the conventions of the pseudocode and
the list of environments.  A tool that fails says so in its answer; only a tool or a resource that
does not exist, or a resource that cannot be read, is an error of the protocol.

Main definitions:

* `Assistant.Tool`, `Assistant.tools`, `Assistant.Resource`, `Assistant.resources` — what there is;
* `Assistant.callTool`, `Assistant.readResource` — using it;
* `Assistant.ProtocolError` — errors of the protocol, with their codes.
-/

import EventRules.Json.Writer
import EventRules.View

set_option relaxedAutoImplicit false
set_option autoImplicit false

namespace EventRules.Assistant

/-! ### What there is -/

structure Argument where
  name : String
  kind : String
  description : String
  /-- Does the tool need it? -/
  required : Bool := false

/-- **A tool.** -/
structure Tool where
  name : String
  description : String
  arguments : List Argument

def decompileTool : Tool where
  name := "decompile_event_rule"
  description := "Decompile an event rule XML document into indented pseudocode."
  arguments :=
    [⟨"event_xml", "string", "The event rule XML document", true⟩,
      ⟨"template_xml", "string", "The data structure template XML bound to the rule", false⟩,
      ⟨"template_name", "string",
        "Name of a catalog template to use when template_xml is absent", false⟩,
      ⟨"environment", "string",
        "Catalog environment used for table, dictionary and business function lookups", false⟩]

def searchTool : Tool where
  name := "search_templates"
  description := "Find data structure templates in a catalog environment by approximate name."
  arguments :=
    [⟨"environment", "string", "Catalog environment", true⟩,
      ⟨"query", "string", "Template name or fragment", true⟩,
      ⟨"limit", "number", "Max number of results (default 10)", false⟩]

/-- **The tools**, in order of their names. -/
def tools : List Tool :=
  [decompileTool, searchTool]

/-- **A resource.** -/
structure Resource where
  uri : String
  name : String
  description : String
  contentType : String
  deriving DecidableEq

def environmentsResource : Resource where
  uri := "erd://environments"
  name := "Environments"
  description := "Catalog environments available for lookups"
  contentType := "application/json"

def conventionsResource : Resource where
  uri := "erd://conventions"
  name := "Pseudocode Conventions"
  description := "How decompiled event rules are laid out"
  contentType := "text/markdown"

/-- **The resources**, in order of their names. -/
def resources : List Resource :=
  [environmentsResource, conventionsResource]

def conventionLines : List String :=
  ["",
    "# Event Rule Pseudocode Conventions",
    "",
    "## 1. Lines",
    "- One statement per line, indented with one tab per open If/While block.",
    "- 'End If', 'End While' and 'Else' close the current block; 'Else' reopens it.",
    "",
    "## 2. Operands",
    "- Template members: 'szItemName [ALIAS]'. A leading 'BF ' is kept.",
    "- Event variables: 'VA name [ALIAS]'.",
    "- System values and constants: 'SV name', 'CO name'.",
    "- String literals are quoted.",
    "",
    "## 3. Conditions",
    "- The first clause starts with 'If' or 'While', later clauses with 'and'/'or'.",
    "- Comparisons read: is equal to, is not equal to, is less than or equal to,",
    "  is greater than, is equal to or empty.",
    "",
    "## 4. Calls",
    "- Table I/O: 'TABLE.Operation Index N: KEY, KEY' then one parameter per line",
    "  ('->' in, '<-' out, '=' otherwise).",
    "- Business functions: 'Function(Object.Function)' then one parameter per line",
    "  ('->' in, '<-' out, '<->' in/out).",
    ""]

/-- **The conventions of the pseudocode.** -/
def conventions : String :=
  Text.join "\n" conventionLines

/-! ### Using it -/

/-- **An error of the protocol.** -/
inductive ProtocolError where
  | unknownTool (name : String)
  | unknownResource (uri : String)
  | failed (failure : Failure)

def ProtocolError.code : ProtocolError → Int
  | .unknownTool _ => -32602
  | .unknownResource _ => -32002
  | .failed _ => -32603

def ProtocolError.message : ProtocolError → String
  | .unknownTool name => "tool '" ++ name ++ "' not found: tool not found"
  | .unknownResource uri =>
      "handler not found for resource URI '" ++ uri ++ "': resource not found"
  | .failed f => f.message

structure ToolAnswer where
  isError : Bool := false
  text : String
  deriving DecidableEq, Repr

def textArgument? (arguments : Json) (name : String) : Option String :=
  match arguments.field? name with
  | some (.string s) => some s
  | _ => none

/-- A number cut to a whole one.  It is taken in double precision; one that is out of range counts
as no limit at all. -/
def wholeNumber (w : Numeral.Written) : Int :=
  match w.double? with
  | none => 0
  | some size =>
      let n := if w.negative then -size.floor else size.floor
      if Numeral.least ≤ n && n ≤ Numeral.greatest then n else 0

def limitArgument (arguments : Json) : Int :=
  match arguments.field? "limit" with
  | some (.number w) => wholeNumber w
  | _ => defaultSuggestions

def callDecompile (arguments : Json) (s : Service) : ToolAnswer × Service :=
  match textArgument? arguments "event_xml" with
  | none => (⟨true, "event_xml argument required"⟩, s)
  | some event =>
      if Text.isBlank event then (⟨true, "event_xml argument required"⟩, s)
      else
        let request : DecompileRequest :=
          { environment := (textArgument? arguments "environment").getD ""
            events := [Utf8.encode event]
            template := Utf8.encode ((textArgument? arguments "template_xml").getD "")
            templateName := (textArgument? arguments "template_name").getD "" }
        match s.decompile false request with
        | (.error f, s') => (⟨true, "decompile failed: " ++ f.message⟩, s')
        | (.ok r, s') =>
            (⟨false, if r.text = "" then "Event " ++ r.key ++ " produced no lines." else r.text⟩,
              s')

/-- A match as it is shown: the name, and the score with two decimal places. -/
def shownMatch (m : TemplateMatch) : String :=
  m.name ++ " (" ++ m.scoreText 2 ++ ")"

def callSearch (arguments : Json) (s : Service) : ToolAnswer × Service :=
  match textArgument? arguments "query" with
  | none => (⟨true, "query argument required"⟩, s)
  | some query =>
      let environment := (textArgument? arguments "environment").getD ""
      match s.templates environment query (limitArgument arguments) with
      | (.error f, s') => (⟨true, "search failed: " ++ f.message⟩, s')
      | (.ok found, s') =>
          (⟨false, if found.isEmpty then "No templates found."
            else Text.join "\n" (found.map shownMatch)⟩, s')

/-- **Calls a tool.** -/
def callTool (name : String) (arguments : Json) (s : Service) :
    Except ProtocolError ToolAnswer × Service :=
  if name = decompileTool.name then
    let (answer, s') := callDecompile arguments s
    (.ok answer, s')
  else if name = searchTool.name then
    let (answer, s') := callSearch arguments s
    (.ok answer, s')
  else (.error (.unknownTool name), s)

/-- **Reads a resource.** -/
def readResource (uri : String) (s : Service) :
    Except ProtocolError (Resource × String) × Service :=
  if uri = conventionsResource.uri then (.ok (conventionsResource, conventions), s)
  else if uri = environmentsResource.uri then
    match s.environments with
    | (.error f, s') => (.error (.failed f), s')
    | (.ok l, s') => (.ok (environmentsResource, (Environment.listJson l).render), s')
  else (.error (.unknownResource uri), s)

end EventRules.Assistant

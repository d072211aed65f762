/-
**The console.**

A console session reads commands line by line and writes what they say.  It remembers the
environment and the last rule that was loaded, with the paths it was loaded from.

A line may have at most 65535 bytes; a longer one ends the session, as do the end of the input and
the commands to leave.

Main definitions:

* `Console.Session` — what a session remembers;
* `Console.Command`, `Console.Command.parse` — the commands;
* `Console.load`, `Console.showResult`, `Console.find`, `Console.describe` — what they do;
* `Console.step`, `Console.run` — one line, and a whole session.
-/

import EventRules.Assistant.Tools

set_option relaxedAutoImplicit false
set_option autoImplicit false

namespace EventRules.Console

/-- **What a session remembers.** -/
structure Session where
  /-- The environment for lookups; an empty one stands for none. -/
  environment : String := ""
  eventPath : String := ""
  templatePath : String := ""
  result : Option Decompiled := none

/-! ### Commands -/

/-- **A command.** -/
inductive Command where
  | load (arguments : String)
  | showLast
  | find (query : String)
  | describe (name : String)
  | environment (name : String)
  | help
  | unknown (word : String)
  deriving DecidableEq, Repr

/-- **The command of a line** that is not blank and has been trimmed. -/
def Command.parse (line : String) : Command :=
  let (word, rest) := Text.cut ' ' line
  let argument := Text.trim (rest.getD "")
  match word with
  | "load" => .load argument
  | "show" => .showLast
  | "find" => .find argument
  | "template" => .describe argument
  | "env" => .environment argument
  | "help" => .help
  | word => .unknown word

/-- The commands, as they are shown. -/
def helpText : String :=
  Text.join "\n"
    ["Commands:",
      "  load <event.xml> [template.xml]  decompile an event rule",
      "  show                             print the last result",
      "  find <name>                      search templates in the environment",
      "  template <name>                  list the items of a template",
      "  env [name]                       show or switch the environment",
      "  exit | quit                      leave"] ++ "\n"

/-! ### What they do -/

def loadRequest (environment : String) (event template : Bytes) : DecompileRequest :=
  { environment := environment, events := [event], template := template }

/-- Decompiles what has been read, and remembers it if that succeeds. -/
def decompileLoaded (session : Session) (path : String) (event template : Bytes) (s : Service) :
    String × Session × Service :=
  match s.decompile false (loadRequest session.environment event template) with
  | (.error f, s') => ("❌ Decompile failed: " ++ f.message ++ "\n", session, s')
  | (.ok r, s') =>
      ("✅ Event " ++ r.key ++ ": " ++ toString r.lines.length ++ " lines\n",
        { session with eventPath := path, result := some r }, s')

/-- **Loads a rule.**  The path of a template is remembered as soon as the template has been
read. -/
def load (arguments : String) (session : Session) (s : Service) : String × Session × Service :=
  match Text.fields arguments with
  | [path] =>
      match s.files.read path with
      | .error f => ("❌ Failed to read event: " ++ f.message ++ "\n", session, s)
      | .ok event => decompileLoaded session path event [] s
  | [path, templatePath] =>
      match s.files.read path with
      | .error f => ("❌ Failed to read event: " ++ f.message ++ "\n", session, s)
      | .ok event =>
          match s.files.read templatePath with
          | .error f => ("❌ Failed to read template: " ++ f.message ++ "\n", session, s)
          | .ok template =>
              decompileLoaded { session with templatePath := templatePath } path event template s
  | _ => ("Usage: load <event.xml> [template.xml]\n", session, s)

/-- **Shows the last rule.** -/
def showResult (session : Session) : String :=
  match session.result with
  | none => "Nothing loaded. Use: load <event.xml> [template.xml]\n"
  | some r =>
      "📄 Event: " ++ r.key ++ "  Template: " ++ r.templateName ++ "\n" ++
        if r.lines.isEmpty then "[No lines]\n" else r.text

/-- **Searches for templates.** -/
def find (query : String) (session : Session) (s : Service) : String × Service :=
  if query = "" then ("Usage: find <template name>\n", s)
  else
    match s.templates session.environment query defaultSuggestions with
    | (.error f, s') => ("❌ Search failed: " ++ f.message ++ "\n", s')
    | (.ok found, s') =>
        (if found.isEmpty then "📭 [No templates]\n"
          else String.join (found.map fun m => "- " ++ Assistant.shownMatch m ++ "\n"), s')

def shownItem (i : TemplateItem) : String :=
  "  " ++ i.id ++ "\t" ++ i.label ++ "\n"

/-- **Lists the fields of a template.** -/
def describe (name : String) (session : Session) (s : Service) : String × Service :=
  if name = "" then ("Usage: template <name>\n", s)
  else
    match s.template false session.environment name with
    | (.error f, s') => ("❌ Failed to get template: " ++ f.message ++ "\n", s')
    | (.ok t, s') =>
        ("📄 " ++ t.name ++ " " ++ t.description ++ "\n" ++ String.join (t.items.map shownItem), s')

/-- **Carries out a command.** -/
def perform (c : Command) (session : Session) (s : Service) : String × Session × Service :=
  match c with
  | .load arguments => load arguments session s
  | .showLast => (showResult session, session, s)
  | .find query =>
      let (text, s') := find query session s
      (text, session, s')
  | .describe name =>
      let (text, s') := describe name session s
      (text, session, s')
  | .environment name =>
      let session := if name = "" then session else { session with environment := name }
      ("Environment: " ++ Text.quote session.environment ++ "\n", session, s)
  | .help => (helpText, session, s)
  | .unknown word => ("Unknown command " ++ Text.quote word ++ ". Type 'help'.\n", session, s)

/-! ### Sessions -/

def longestLine : Nat := 65535

def withoutReturn (line : Bytes) : Bytes :=
  if line.getLast? = some 13 then line.dropLast else line

/-- The lines of the input, given what has been read of the next one in reverse order and its
length; they stop before one that is too long. -/
def linesFrom : Bytes → Nat → Bytes → List Bytes
  | read, size, [] =>
      if size = 0 || longestLine < size then [] else [withoutReturn read.reverse]
  | read, size, b :: rest =>
      if b = 10 then
        if longestLine < size then []
        else withoutReturn read.reverse :: linesFrom [] 0 rest
      else linesFrom (b :: read) (size + 1) rest

/-- **The lines of the input.** -/
def lines (input : Bytes) : List Bytes :=
  linesFrom [] 0 input

def prompt : String := "> "

/-- **Carries out a line**; nothing if the line leaves the session. -/
def step (line : Bytes) (session : Session) (s : Service) : Option (String × Session × Service) :=
  let text := Text.trim (Utf8.text line)
  if text = "exit" || text = "quit" then none
  else if text = "" then some ("", session, s)
  else some (perform (.parse text) session s)

def runLines : List Bytes → Session → Service → String × Session × Service
  | [], session, s => (prompt, session, s)
  | line :: rest, session, s =>
      match step line session s with
      | none => (prompt, session, s)
      | some (said, session', s') =>
          let (output, session'', s'') := runLines rest session' s'
          (prompt ++ said ++ output, session'', s'')

def banner (environment : String) : String :=
  "\n--- Event Rule Decompiler ---\n" ++
    (if environment = "" then "" else "Environment: " ++ environment ++ "\n") ++ helpText

/-- **A whole session** in an environment: everything it writes. -/
def run (environment : String) (input : Bytes) (s : Service) : String × Service :=
  let (output, _, s') := runLines (lines input) { environment := environment } s
  (banner environment ++ output, s')

end EventRules.Console

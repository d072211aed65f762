/-
**Commands.**

The program has a handful of commands.  The first plain word of a command line names the command;
the rest is read with the flags of that command together with those that every command has.  What
comes out is an invocation: what to do and with which settings.  Everything that can be wrong with
a command line is found here, before anything is done.

Variables of the surroundings give the settings that the flags leave open.

Main definitions:

* `CommandLine.Command` — the commands, with their flags;
* `CommandLine.Settings`, `CommandLine.Task`, `CommandLine.Invocation` — what a command line says;
* `CommandLine.Refusal` — what can be wrong with it;
* `CommandLine.interpret` — from the arguments to an invocation.
-/

import EventRules.CommandLine.Flags
import EventRules.Suggest

set_option relaxedAutoImplicit false
set_option autoImplicit false

namespace EventRules.CommandLine

def programName : String := "gerd"

/-! ### Flags of every command -/

def dataVariable : String := "GERD_DATA_DIR"

def environmentVariable : String := "GERD_CATALOG"

def lowMemoryVariable : String := "GERD_LOW_MEM"

def variableNames : List String :=
  [dataVariable, environmentVariable, lowMemoryVariable]

def dataFlag (defaults : Dictionary String) : Flag where
  name := "data"
  usage := "catalog data directory"
  fallback :=
    let d := (defaults.get? dataVariable).getD ""
    if d = "" then "./data" else d

def environmentFlag (defaults : Dictionary String) : Flag where
  name := "env"
  letter := some 'e'
  usage := "catalog environment used for lookups"
  fallback := (defaults.get? environmentVariable).getD ""

def lowMemoryFlag (defaults : Dictionary String) : Flag where
  name := "low-mem"
  kind := .switch
  usage := "optimize for low-memory environments (e.g., Cloud Run with 1GB RAM)"
  fallback := truthText (((defaults.get? lowMemoryVariable).bind truth?).getD false)

def verboseFlag : Flag where
  name := "verbose"
  letter := some 'v'
  kind := .switch
  usage := "log resolution misses"
  fallback := truthText false

/-- **The flags of every command.** -/
def commonFlags (defaults : Dictionary String) : List Flag :=
  [dataFlag defaults, environmentFlag defaults, lowMemoryFlag defaults, verboseFlag]

def helpFlag (about : String) : Flag where
  name := "help"
  letter := some 'h'
  kind := .switch
  usage := "help for " ++ about
  fallback := truthText false

/-! ### Commands -/

inductive Shell where
  | bash
  | fish
  | powershell
  | zsh
  deriving DecidableEq, Repr

namespace Shell

/-- The shells, in order of their names. -/
def all : List Shell :=
  [.bash, .fish, .powershell, .zsh]

def name : Shell → String
  | .bash => "bash"
  | .fish => "fish"
  | .powershell => "powershell"
  | .zsh => "zsh"

def summary (s : Shell) : String :=
  "Generate the autocompletion script for " ++ s.name

def ofName? (s : String) : Option Shell :=
  all.find? (·.name == s)

end Shell

/-- **A command.** -/
inductive Command where
  | decompile
  | importCatalog
  | serve
  | assistant
  | console
  | help
  | completion (shell : Option Shell)
  deriving DecidableEq, Repr

def templateFlag : Flag where
  name := "template"
  letter := some 't'
  usage := "data structure template XML file"

def templateNameFlag : Flag where
  name := "template-name"
  usage := "catalog template to use when --template is not given"

def jsonFlag : Flag where
  name := "json"
  kind := .switch
  usage := "print the full result as JSON"
  fallback := truthText false

def bareFlag : Flag where
  name := "no-descriptions"
  kind := .switch
  usage := "disable completion descriptions"
  fallback := truthText false

namespace Command

/-- The commands, in order of their names. -/
def all : List Command :=
  [.completion none, .decompile, .help, .importCatalog, .assistant, .console, .serve]

/-- The commands that are suggested for one that does not exist, in this order. -/
def suggested : List Command :=
  [.decompile, .importCatalog, .serve, .assistant, .console, .completion none]

def name : Command → String
  | .decompile => "decompile"
  | .importCatalog => "import"
  | .serve => "serve"
  | .assistant => "mcp"
  | .console => "repl"
  | .help => "help"
  | .completion none => "completion"
  | .completion (some s) => s.name

/-- The words that name a command, from the program on. -/
def path : Command → String
  | .completion (some s) => programName ++ " completion " ++ s.name
  | c => programName ++ " " ++ c.name

def summary : Command → String
  | .decompile => "Decompile event rule documents to pseudocode"
  | .importCatalog => "Load a catalog manifest into an environment"
  | .serve => "Run the REST API server"
  | .assistant => "Serve the decompiler over MCP on stdio"
  | .console => "Start an interactive session"
  | .help => "Help about any command"
  | .completion none => "Generate the autocompletion script for the specified shell"
  | .completion (some s) => s.summary

def operands : Command → String
  | .decompile => " <event.xml>..."
  | .importCatalog => " <catalog.yaml>"
  | .help => " [command]"
  | _ => ""

/-- The flags of a command alone, in order of their names. -/
def ownFlags (c : Command) : List Flag :=
  helpFlag c.name ::
    match c with
    | .decompile => [jsonFlag, templateFlag, templateNameFlag]
    | .completion (some _) => [bareFlag]
    | _ => []

def ofName? (s : String) : Option Command :=
  all.find? (·.name == s)

end Command

/-! ### Refusals -/

/-- **What can be wrong with a command line.** -/
inductive Refusal where
  | unknownCommand (word : String)
  | flags (fault : FlagFault)
  | superfluous (command : Command) (word : String)
  | tooFew (least given : Nat)
  | notExactly (wanted given : Nat)
  deriving DecidableEq, Repr

def suggestionDistance : Nat := 2

/-- A word with one character for each of its bytes, letters in lower case. -/
def byteLetters (word : String) : List Char :=
  (Utf8.encode word).map fun b => (Char.ofNat b.toNat).toLower

/-- Is a command suggested for a word?  It is if it is near the word or begins with it, whatever
the case of the letters. -/
def Command.resembles (word : String) (c : Command) : Bool :=
  decide (editDistance (byteLetters word) c.name.toList ≤ suggestionDistance) ||
    Text.startsWith (byteLetters word) c.name.toList

def suggestionText (word : String) : String :=
  match Command.suggested.filter (·.resembles word) with
  | [] => ""
  | found => "\n\nDid you mean this?\n" ++ String.join (found.map fun c => "\t" ++ c.name ++ "\n")

def Refusal.message : Refusal → String
  | .unknownCommand word =>
      "unknown command " ++ Text.quote word ++ " for " ++ Text.quote programName ++
        suggestionText word
  | .flags fault => fault.message
  | .superfluous command word =>
      "unknown command " ++ Text.quote word ++ " for " ++ Text.quote command.path
  | .tooFew least given =>
      "requires at least " ++ toString least ++ " arg(s), only received " ++ toString given
  | .notExactly wanted given =>
      "accepts " ++ toString wanted ++ " arg(s), received " ++ toString given

/-! ### Invocations -/

/-- **The settings of every command.** -/
structure Settings where
  dataDirectory : String
  /-- The environment for lookups; an empty one stands for none. -/
  environment : String
  lowMemory : Bool
  deriving DecidableEq, Repr

def Settings.ofGiven (defaults : Dictionary String) (g : Given) : Settings where
  dataDirectory := g.text (dataFlag defaults)
  environment := g.text (environmentFlag defaults)
  lowMemory := g.isOn (lowMemoryFlag defaults)

/-- **What to do.** -/
inductive Task where
  | explain (about : Option Command)
  | nothingToExplain (topic : List String)
  /-- Decompiles the event documents in files, with the template document in a file or the
  template of a name. -/
  | decompile (events : List String) (template templateName : String) (json : Bool)
  | importCatalog (path : String)
  | serve
  | assistant
  | console
  | completionScript (shell : Shell)
  deriving DecidableEq, Repr

/-- **What a command line says.** -/
structure Invocation where
  settings : Settings
  task : Task
  deriving DecidableEq, Repr

/-- The command of a command line, if it names one, and the rest of the line. -/
def findCommand (defaults : Dictionary String) (arguments : List String) :
    Except Refusal (Option Command × List String) :=
  let flags := commonFlags defaults
  match words flags arguments with
  | [] => .ok (none, arguments)
  | word :: _ =>
      match Command.ofName? word with
      | some (.completion none) => .ok (findShell flags (withoutWord flags word arguments))
      | some c => .ok (some c, withoutWord flags word arguments)
      | none => .error (.unknownCommand word)
where
  /-- The command that completes command lines, with the shell if the next word names one. -/
  findShell (flags : List Flag) (arguments : List String) : Option Command × List String :=
    match words flags arguments with
    | [] => (some (.completion none), arguments)
    | word :: _ =>
        match Shell.ofName? word with
        | some s => (some (.completion (some s)), withoutWord flags word arguments)
        | none => (some (.completion none), arguments)

def helpTask (defaults : Dictionary String) (topic : List String) : Task :=
  match findCommand defaults topic with
  | .ok (about, _) => .explain about
  | .error _ => .nothingToExplain topic

/-- The task of a command, given its flags and plain arguments. -/
def Command.task (defaults : Dictionary String) (g : Given) : Command → Except Refusal Task
  | .decompile =>
      if g.arguments.isEmpty then .error (.tooFew 1 0)
      else .ok (.decompile g.arguments (g.text templateFlag) (g.text templateNameFlag)
        (g.isOn jsonFlag))
  | .importCatalog =>
      match g.arguments with
      | [path] => .ok (.importCatalog path)
      | other => .error (.notExactly 1 other.length)
  | .serve => .ok .serve
  | .assistant => .ok .assistant
  | .console => .ok .console
  | .help => .ok (helpTask defaults g.arguments)
  | .completion none => .ok (.explain (some (.completion none)))
  | .completion (some s) =>
      match g.arguments with
      | [] => .ok (.completionScript s)
      | word :: _ => .error (.superfluous (.completion (some s)) word)

/-- **What a command line says**, given the variables of the surroundings. -/
def interpret (defaults : Dictionary String) (arguments : List String) :
    Except Refusal Invocation := do
  let (command, rest) ← findCommand defaults arguments
  let help := helpFlag ((command.map Command.name).getD programName)
  let own := (command.map Command.ownFlags).getD [help]
  match readArguments (own ++ commonFlags defaults) none rest {} with
  | .error fault => .error (.flags fault)
  | .ok g =>
      let task ← match command with
        | none => .ok (.explain none)
        | some c => if g.isOn help then .ok (.explain (some c)) else c.task defaults g
      return ⟨.ofGiven defaults g, task⟩

end EventRules.CommandLine

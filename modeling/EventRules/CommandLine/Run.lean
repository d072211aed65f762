/-
**Running a command line.**

A run takes the arguments, the variables of the surroundings, the input and the files, and says what
is written, where, and with which code the program ends.  What goes wrong is reported on the error
channel, and the code is then one.

Every run works on catalogs of its own making: only an import writes to them, all other commands
open them for reading.

Main definitions:

* `CommandLine.Outcome` — what a run leaves behind;
* `CommandLine.Settings.decompile`, `CommandLine.Settings.importCatalog` — the commands that do
  their work in one go;
* `CommandLine.run` — a whole run.
-/

import EventRules.Assistant.Channel
import EventRules.CommandLine.Help
import EventRules.CommandLine.VariableFile
import EventRules.Console

set_option relaxedAutoImplicit false
set_option autoImplicit false

namespace EventRules.CommandLine

/-- **What a run leaves behind.** -/
structure Outcome where
  code : Nat := 0
  output : String := ""
  errors : String := ""
  deriving DecidableEq, Repr

namespace Outcome

def reportLine (text : String) : String :=
  "Error: " ++ text ++ "\n"

/-- A failure is reported once by the command and once at the end of the program. -/
def failed (text : String) : Outcome where
  code := 1
  errors := reportLine text ++ reportLine text

/-- A command line that cannot be followed is reported like a failure.  If the command is not
known, there is a hint in between. -/
def refused (r : Refusal) : Outcome :=
  match r with
  | .unknownCommand _ =>
      { code := 1
        errors := reportLine r.message ++ "Run '" ++ programName ++ " --help' for usage.\n" ++
          reportLine r.message }
  | _ => failed r.message

def after (notice : String) (o : Outcome) : Outcome :=
  { o with errors := notice ++ o.errors }

end Outcome

/-! ### Catalogs -/

def Settings.notice (s : Settings) : String :=
  if s.lowMemory then "Running in LOW MEMORY mode\n" else ""

def Settings.registry (s : Settings) (readOnly : Bool) : Registry :=
  { base := s.dataDirectory, lowMemory := s.lowMemory, readOnly := readOnly }

def Settings.service (s : Settings) (files : FileTree) : Service :=
  ⟨files, some (s.registry true)⟩

/-! ### Decompiling -/

/-- The contents of files, up to the first one that cannot be read. -/
def readAll (files : FileTree) (paths : List String) : Except Failure (List Bytes) :=
  paths.mapM fun path => (files.read path).mapError (.because "failed to read event")

/-- The template document in a file; an empty path stands for none. -/
def readTemplate (files : FileTree) (path : String) : Except Failure Bytes :=
  if path = "" then .ok []
  else (files.read path).mapError (.because "failed to read template")

/-- A decompiled rule as it is written: its text, or all of it. -/
def written (json : Bool) (r : Decompiled) : String :=
  if json then r.json.layout 0 ++ "\n" else r.text

def Settings.request (s : Settings) (files : FileTree) (events : List String)
    (template templateName : String) : Except Failure DecompileRequest := do
  let documents ← readAll files events
  let templateDocument ← readTemplate files template
  return { environment := s.environment, events := documents, template := templateDocument,
           templateName := templateName }

/-- **Decompiles what files hold.** -/
def Settings.decompile (s : Settings) (files : FileTree) (events : List String)
    (template templateName : String) (json : Bool) : Outcome :=
  match s.request files events template templateName with
  | .error e => .failed e.message
  | .ok request =>
      match (s.service files).decompile false request with
      | (.error e, _) => (Outcome.failed e.message).after s.notice
      | (.ok r, _) => { output := written json r, errors := s.notice }

/-! ### Importing -/

def importReport (environment : String) (stats : Catalog.ImportStats) : String :=
  "Imported into " ++ environment ++ ": " ++ toString stats.templates ++ " templates, " ++
    toString stats.tables ++ " tables, " ++ toString stats.titles ++ " titles, " ++
    toString stats.functionObjects ++ " business functions\n"

def Settings.fill (s : Settings) (m : Catalog.Manifest) (environment : String)
    (files : FileTree) : Outcome × FileTree :=
  match Site.create ⟨environment, environment, m.description⟩ ⟨s.registry false, files⟩ with
  | (.error e, site) => (.failed e.message, site.files)
  | (.ok catalog, site) =>
      let imported := m.importInto site.files catalog.store
      let files' := (site.keepStore environment catalog imported.store).files
      match imported.failure with
      | some e =>
          (.failed (Failure.because ("import into " ++ environment ++ " failed") e).message, files')
      | none => ({ output := importReport environment imported.stats }, files')

/-- **Fills a catalog from the manifest in a file.**  The environment is that of the settings or,
if they name none, that of the manifest. -/
def Settings.importCatalog (s : Settings) (path : String) (files : FileTree) :
    Outcome × FileTree :=
  match Catalog.Manifest.load files path with
  | .error e => (.failed e.message, files)
  | .ok m =>
      let environment := if s.environment = "" then m.environment else s.environment
      if environment = "" then
        (.failed ("no environment: pass --env or set 'environment' in " ++ path), files)
      else
        let (outcome, files') := s.fill m environment files
        (outcome.after s.notice, files')

/-! ### Runs -/

def serveNotice (s : Settings) : String :=
  "Starting REST API Server. Data directory: " ++ s.dataDirectory ++ "\n"

/-- **Carries out an invocation.**  Serving over the network and writing scripts for shells are not
part of a run and fail. -/
def Invocation.perform (i : Invocation) (defaults : Dictionary String) (input : Bytes)
    (files : FileTree) : Outcome × FileTree :=
  let s := i.settings
  match i.task with
  | .explain about => ({ output := helpText defaults about }, files)
  | .nothingToExplain topic => ({ errors := noHelpText defaults topic }, files)
  | .decompile events template templateName json =>
      (s.decompile files events template templateName json, files)
  | .importCatalog path => s.importCatalog path files
  | .serve =>
      ({ Outcome.failed "cannot serve over the network" with output := serveNotice s }.after
        s.notice, files)
  | .completionScript shell =>
      (.failed ("cannot write a script for " ++ shell.name), files)
  | .assistant =>
      ({ output := (Assistant.converse input (s.service files)).1, errors := s.notice }, files)
  | .console =>
      ({ output := (Console.run s.environment input (s.service files)).1, errors := s.notice },
        files)

def Task.paths : Task → List String
  | .decompile events template _ _ => events ++ [template]
  | .importCatalog path => [path]
  | _ => []

/-- The files that a task reads once those of `Task.paths` are there. -/
def Task.furtherPaths (files : FileTree) : Task → List String
  | .importCatalog path =>
      match Catalog.Manifest.load files path with
      | .ok m => m.templates.map m.templatePath
      | .error _ => []
  | _ => []

def variableFile : String := ".env"

/-- The variables of the surroundings, completed by the file of variables if there is one. -/
def allVariables (surroundings : Dictionary String) (files : FileTree) : Dictionary String :=
  match files.read variableFile with
  | .ok file => VariableFile.complete surroundings file
  | .error _ => surroundings

/-- **A whole run.** -/
def run (arguments : List String) (surroundings : Dictionary String) (input : Bytes)
    (files : FileTree) : Outcome × FileTree :=
  let defaults := allVariables surroundings files
  match interpret defaults arguments with
  | .error refusal => (.refused refusal, files)
  | .ok invocation => invocation.perform defaults input files

end EventRules.CommandLine

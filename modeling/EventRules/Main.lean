/-
**The program.**

The outer layer around `CommandLine.run`: it brings the files that a run reads into a file tree,
lets the run work on that, and writes what comes out.  Console sessions and assistants are served
line by line, so that each answer is seen before the next question is asked.

A catalog is kept below the directory of its environment, as an archive in the directory of its
database.
-/

import EventRules.Catalog.Archive
import EventRules.CommandLine.Run

set_option relaxedAutoImplicit false
set_option autoImplicit false

namespace EventRules.Program

/-! ### Bringing files in -/

/-- The content of a file, if it can be read. -/
def content? (path : String) : IO (Option Bytes) := do
  try
    return some (← IO.FS.readBinFile path).toList
  catch _ => return none

/-- Brings a file into the tree, or a directory as far as its being there goes. -/
def bring (files : FileTree) (path : String) : IO FileTree := do
  match ← content? path with
  | some content =>
      return ((files.makeAll (Path.parent path)).2.write path content).toOption.getD files
  | none =>
      if path != "" && (← ((← IO.currentDir) / path).isDir) then
        return (files.makeAll (Path.clean path)).2
      else return files

def archivePath (directory : String) : String :=
  Path.join (Catalog.databasePath directory) "catalog.json"

def bringEnvironment (files : FileTree) (directory : String) : IO FileTree := do
  let files := (files.makeAll directory).2
  let files ← bring files (Path.join directory Site.recordFile)
  match (← content? (archivePath directory)).bind Catalog.Tables.ofArchive? with
  | none => return files
  | some tables =>
      match files.find (Catalog.databasePath directory) with
      | .ok place => return files.set place (.database tables)
      | .error _ => return files

/-- Brings every environment below the data directory into the tree. -/
def bringEnvironments (files : FileTree) (base : String) : IO FileTree := do
  try
    let entries ← ((← IO.currentDir) / base).readDir
    let files := (files.makeAll (Path.clean base)).2
    entries.foldlM (fun files entry => do
      if ← entry.path.isDir then bringEnvironment files (Path.join base entry.fileName)
      else return files) files
  catch _ => return files

def emptyTree : IO FileTree := do
  let directory := (← IO.currentDir).toString
  let place := (Path.names directory).filter (· != "")
  return { (({} : FileTree).makeAll directory).2 with workingPlace := place }

/-! ### Writing what comes out -/

def storeEnvironment (files : FileTree) (directory : String) : IO Unit := do
  match files.look (Catalog.databasePath directory) with
  | .ok (.database tables) =>
      IO.FS.createDirAll (Catalog.databasePath directory)
      IO.FS.writeBinFile (archivePath directory) ⟨tables.archive.toArray⟩
      match files.read (Path.join directory Site.recordFile) with
      | .ok record => IO.FS.writeBinFile (Path.join directory Site.recordFile) ⟨record.toArray⟩
      | .error _ => return ()
  | _ => return ()

def storeEnvironments (files : FileTree) (base : String) : IO Unit := do
  match files.list base with
  | .error _ => return ()
  | .ok entries => entries.forM fun e => storeEnvironment files (Path.join base e.1)

def report (o : CommandLine.Outcome) : IO UInt32 := do
  IO.eprint o.errors
  IO.print o.output
  return UInt32.ofNat o.code

/-! ### Conversations -/

def bringLoaded (line : String) (s : Service) : IO Service := do
  match Console.Command.parse (Text.trim line) with
  | .load arguments => return { s with files := ← (Text.fields arguments).foldlM bring s.files }
  | _ => return s

partial def consoleLoop (session : Console.Session) (s : Service) : IO Unit := do
  IO.print Console.prompt
  (← IO.getStdout).flush
  let line ← (← IO.getStdin).getLine
  match Console.lines (Utf8.encode line) with
  | [] => return ()
  | bytes :: _ =>
      match Console.step bytes session (← bringLoaded line s) with
      | none => return ()
      | some (said, session', s') =>
          IO.print said
          consoleLoop session' s'

partial def assistantLoop (s : Service) : IO Unit := do
  let line ← (← IO.getStdin).getLine
  if !line.endsWith "\n" then return ()
  let (answer, s') := Assistant.answer? (Utf8.encode line) s
  if let some json := answer then
    IO.println json.render
    (← IO.getStdout).flush
  assistantLoop s'

/-! ### Runs -/

def surroundings : IO (Dictionary String) :=
  CommandLine.variableNames.foldlM (fun d name => do
    match ← IO.getEnv name with
    | some value => return d.insert name value
    | none => return d) []

def perform (i : CommandLine.Invocation) (defaults : Dictionary String) (files : FileTree) :
    IO UInt32 := do
  let base := i.settings.dataDirectory
  let files ← i.task.paths.foldlM bring files
  let files ← (i.task.furtherPaths files).foldlM bring files
  let files ← bringEnvironments files base
  match i.task with
  | .console =>
      IO.eprint i.settings.notice
      IO.print (Console.banner i.settings.environment)
      consoleLoop { environment := i.settings.environment } (i.settings.service files)
      return 0
  | .assistant =>
      IO.eprint i.settings.notice
      assistantLoop (i.settings.service files)
      return 0
  | .importCatalog _ =>
      let (outcome, files') := i.perform defaults [] files
      storeEnvironments files' base
      report outcome
  | _ => report (i.perform defaults [] files).1

end EventRules.Program

open EventRules in
/-- **The program.** -/
def main (arguments : List String) : IO UInt32 := do
  let files ← Program.bring (← Program.emptyTree) CommandLine.variableFile
  let defaults := CommandLine.allVariables (← Program.surroundings) files
  match CommandLine.interpret defaults arguments with
  | .error refusal => Program.report (.refused refusal)
  | .ok invocation => Program.perform invocation defaults files

/-
**Opening catalogs.**

A catalog in a directory keeps its contents in a database below that directory.  Opening it for
writing makes the database if there is none; opening it for reading needs one.  What is put into an
open store is written through to its database, as long as that is still there.

Main definitions:

* `Catalog.databasePath` — where the database of a catalog is;
* `Catalog.openStore` — opening a catalog;
* `Catalog.save` — writing contents through.
-/

import EventRules.Catalog.Config
import EventRules.Files.Tree

set_option relaxedAutoImplicit false
set_option autoImplicit false

namespace EventRules.Catalog

def databasePath (directory : String) : String :=
  Path.join directory "badger"

def badDirectory (complaint path : String) (cause : Failure) : Failure :=
  .plain (complaint ++ ": " ++ Text.quote path ++ " err: " ++ cause.message)

def noDatabase (readOnly exclusive : Bool) (path : String) (files : FileTree) : Failure :=
  if exclusive && !readOnly then
    let lock := files.absolute (Path.join path "LOCK")
    .plain ("Cannot write pid file " ++ Text.quote lock ++ " err: " ++
      (Failure.file "open" lock .notDirectory).message)
  else .file "open" (Path.join path "MANIFEST") .notDirectory

/-- The contents of the database at a path, and the tree with the database in it. -/
def openDatabase (readOnly exclusive : Bool) (path : String) (files : FileTree) :
    Except Failure (Tables × FileTree) :=
  match files.look path with
  | .ok (.database tables) => .ok (tables, files)
  | .ok .directory =>
      if readOnly then .error (.plain "no manifest found, required for read-only db")
      else fresh files
  | .ok _ => .error (noDatabase readOnly exclusive path files)
  | .error .missing =>
      if readOnly then
        .error (.plain ("Cannot find directory " ++ Text.quote path ++ " for read-only open"))
      else
        match files.makeAll path with
        | (.ok (), files') => fresh files'
        | (.error e, _) => .error (badDirectory "Error Creating Dir" path e)
  | .error fault => .error (badDirectory "Invalid Dir" path (.file "stat" path fault))
where
  /-- An empty database in place of the directory. -/
  fresh (files : FileTree) : Except Failure (Tables × FileTree) :=
    match files.find path with
    | .ok place => .ok ({}, files.set place (.database {}))
    | .error fault => .error (.file "open" path fault)

/-- **Opens a catalog.** -/
def openStore (config : Config) (files : FileTree) : Except Failure (Store × FileTree) :=
  match config.fault? with
  | some fault => .error (.because "invalid catalog config" (.plain fault.message))
  | none =>
      if config.inMemory then .ok ({ readOnly := config.readOnly }, files)
      else
        match openDatabase config.readOnly config.exclusive (databasePath config.dataDir) files with
        | .ok (tables, files') => .ok (⟨tables, config.readOnly⟩, files')
        | .error e => .error (.because "failed to open catalog" e)

/-- **Writes the contents of an open store through** to the database in a directory, if it is
still there. -/
def save (directory : String) (tables : Tables) (files : FileTree) : FileTree :=
  match files.find (databasePath directory) with
  | .error _ => files
  | .ok place =>
      match files.entry? place with
      | some (.database _) => files.set place (.database tables)
      | _ => files

end EventRules.Catalog

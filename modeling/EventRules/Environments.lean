/-
**Environments and their catalogs.**

An environment is a directory below a base directory; its catalog is inside it, and so is the
record that says what the environment is called.  Catalogs are opened when they are first needed
and stay open, each with the caches in front of it, until too many are open: then the one that has
not been used for the longest time is closed.

The list of environments is built once and kept.  Creating an environment drops it, so that the
next listing is built anew; a directory that someone else makes or removes is not noticed.

Main definitions:

* `Environment`, `EnvironmentRecord` — an environment as it is listed, and what is written about it;
* `OpenCatalog`, `Registry` — a catalog that is open, and the state that is kept about the
  environments below a base directory;
* `Site` — a registry together with the files it works on;
* `Site.openCatalog`, `Site.create`, `Site.list`, `Site.closeAll` — what can be done with it;
* `Site.keepCaches`, `Site.keepStore` — putting an open catalog back after it has been used.
-/

import EventRules.Catalog.Manifest
import EventRules.Catalog.Opening
import EventRules.Metadata.Cached
import EventRules.Yaml.Writer

set_option relaxedAutoImplicit false
set_option autoImplicit false

namespace EventRules

/-- **An environment as it is listed.** -/
structure Environment where
  /-- The name of its directory. -/
  id : String
  name : String := ""
  description : String := ""
  deriving DecidableEq, Repr

/-! ### Records -/

/-- **What an environment is called, and what it is for.** -/
structure EnvironmentRecord where
  name : String := ""
  description : String := ""
  deriving DecidableEq, Repr

namespace EnvironmentRecord

def ofNode (node : Yaml.Node) : Yaml.Reading EnvironmentRecord :=
  node.record "manager.EnvironmentMetadata" (fun r name =>
    match name with
    | "name" => some (Yaml.Node.field Yaml.Node.text fun s => { r with name := s })
    | "description" => some (Yaml.Node.field Yaml.Node.text fun s => { r with description := s })
    | _ => none) {}

/-- **Reads the document of a record.** -/
def read (document : Bytes) : Except Yaml.Fault EnvironmentRecord :=
  Yaml.read ofNode {} document

/-- **The document of a record.** -/
def document (r : EnvironmentRecord) : Bytes :=
  Yaml.document [("name", r.name), ("description", r.description)]

end EnvironmentRecord

def Environment.record (e : Environment) : EnvironmentRecord :=
  ⟨e.name, e.description⟩

/-! ### Open catalogs and what is kept -/

structure OpenCatalog where
  /-- The number of the opening, which tells a catalog from one that was opened later. -/
  opening : Nat
  store : Catalog.Store
  caches : SourceCaches

/-- The number of catalogs that stay open. -/
def openLimit : Nat := 10

/-- **What is kept about the environments below a base directory.** -/
structure Registry where
  base : String
  lowMemory : Bool := false
  readOnly : Bool := false
  opened : Lru OpenCatalog := { capacity := openLimit }
  openings : Nat := 0
  /-- The list of environments, once it has been built. -/
  listing : Option (List Environment) := none

namespace Registry

def directory (r : Registry) (environment : String) : String :=
  Path.join r.base environment

def config (r : Registry) (directory : String) : Catalog.Config :=
  { Catalog.Config.onDisk directory with
    readOnly := r.readOnly
    exclusive := false
    blockCacheSize := Catalog.mebibytes (if r.lowMemory then 32 else 128)
    indexCacheSize := Catalog.mebibytes (if r.lowMemory then 16 else 64)
    profile := if r.lowMemory then Catalog.lowMemoryProfile else Catalog.servingProfile }

end Registry

/-- Can an environment have this name?  It must not lead out of the base directory or into
another environment. -/
def isEnvironmentName (name : String) : Bool :=
  !(name = "" || name = "." || name = ".." || name.toList.contains '/' ||
    name.toList.contains '\\')

/-- The failure of a name that no environment can have. -/
def badEnvironmentName (name : String) : Failure :=
  .explain .invalidInput ("bad environment name " ++ Text.quote name)

def noEnvironment (name : String) : Failure :=
  .because ("environment " ++ name) (.sentinel .notFound)

/-- **A registry with the files it works on.** -/
structure Site where
  registry : Registry
  files : FileTree

namespace Site

/-! ### Open catalogs -/

def openAnew (environment : String) (s : Site) : Except Failure OpenCatalog × Site :=
  let directory := s.registry.directory environment
  match s.files.look directory with
  | .error .missing => (.error (noEnvironment environment), s)
  | _ =>
      match Catalog.openStore (s.registry.config directory) s.files with
      | .error e =>
          (.error (.because ("failed to open catalog for environment " ++ environment) e), s)
      | .ok (store, files) =>
          let catalog : OpenCatalog := ⟨s.registry.openings, store, SourceCaches.ofSize 0⟩
          (.ok catalog,
            { registry :=
                { s.registry with
                  opened := s.registry.opened.insert environment catalog
                  openings := s.registry.openings + 1 }
              files := files })

/-- **The catalog of an environment**, opened if it is not open. -/
def openCatalog (environment : String) (s : Site) : Except Failure OpenCatalog × Site :=
  match s.registry.opened.get environment with
  | (some catalog, opened) =>
      (.ok catalog, { s with registry := { s.registry with opened := opened } })
  | (none, _) =>
      if isEnvironmentName environment then s.openAnew environment
      else (.error (badEnvironmentName environment), s)

def keepCaches (environment : String) (catalog : OpenCatalog) (caches : SourceCaches) (s : Site) :
    Site :=
  { s with
    registry :=
      { s.registry with
        opened := s.registry.opened.insert environment { catalog with caches := caches } } }

/-- Puts an open catalog back with another store, which is written through to its database. -/
def keepStore (environment : String) (catalog : OpenCatalog) (store : Catalog.Store) (s : Site) :
    Site where
  registry :=
    { s.registry with
      opened := s.registry.opened.insert environment { catalog with store := store } }
  files := Catalog.save (s.registry.directory environment) store.tables s.files

def closeAll (s : Site) : Site :=
  { s with registry := { s.registry with opened := s.registry.opened.clear } }

/-! ### Environments -/

def recordFile : String := "environment.yaml"

/-- The record of the environment in a directory; an empty one if there is none that can be
read. -/
def record (files : FileTree) (directory : String) : EnvironmentRecord :=
  match files.read (Path.join directory recordFile) with
  | .ok content => (EnvironmentRecord.read content).toOption.getD {}
  | .error _ => {}

/-- The environment in a directory, by its record; without a name there it is called by its
directory. -/
def environment (s : Site) (id : String) : Environment :=
  let r := record s.files (s.registry.directory id)
  ⟨id, if r.name = "" then id else r.name, r.description⟩

/-- Builds the list of environments: the directories right below the base directory, in byte
order of their names. -/
def build (s : Site) : Except Failure (List Environment) :=
  match s.files.list s.registry.base with
  | .error e => .error e
  | .ok entries => .ok ((entries.filter (·.2.isDirectory)).map fun e => s.environment e.1)

/-- **The list of environments.** -/
def list (s : Site) : Except Failure (List Environment) × Site :=
  match s.registry.listing with
  | some l => (.ok l, s)
  | none =>
      match s.build with
      | .error e => (.error e, s)
      | .ok l => (.ok l, { s with registry := { s.registry with listing := some l } })

/-- **Creates an environment**, or writes the record of one that exists, and opens its
catalog. -/
def create (e : Environment) (s : Site) : Except Failure OpenCatalog × Site :=
  if s.registry.readOnly then (.error (.explain .invalidInput "manager is read-only"), s)
  else if !isEnvironmentName e.id then (.error (badEnvironmentName e.id), s)
  else
    let directory := s.registry.directory e.id
    match s.files.makeAll directory with
    | (.error f, files) =>
        (.error (.because "failed to create environment dir" f), { s with files := files })
    | (.ok (), files) =>
        match files.write (Path.join directory recordFile) e.record.document with
        | .error f =>
            (.error (.because "failed to write environment metadata" f),
              { s with files := files })
        | .ok files' =>
            openCatalog e.id
              { registry := { s.registry with listing := none }, files := files' }

end Site

end EventRules

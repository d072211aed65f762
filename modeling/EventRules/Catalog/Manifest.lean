/-
**Filling a catalog from a manifest.**

A manifest is a YAML document that names the template documents of an environment and lists the
indexes of tables, the titles of data items and the modules of business functions.  Template paths
are seen from the directory of the manifest.

An import puts the entries into a store one by one: the templates in the order of the manifest,
then the indexes, the titles and the modules, each kind in the order of the names.  It stops at the
first entry that fails; what has been put until then stays, and is counted.

Main definitions:

* `Catalog.Manifest`, `Catalog.Manifest.load` — a manifest, and reading one;
* `Catalog.Entry`, `Catalog.Manifest.entries` — what a manifest holds, in order;
* `Catalog.ImportStats`, `Catalog.Imported`, `Catalog.importEntries` — the import of entries;
* `Catalog.Manifest.importInto` — the import of a manifest.
-/

import EventRules.Files.Tree
import EventRules.Yaml.Reading

set_option relaxedAutoImplicit false
set_option autoImplicit false

namespace EventRules.Catalog

/-- **A manifest.** -/
structure Manifest where
  /-- The environment that the manifest is for; it need not say. -/
  environment : String := ""
  description : String := ""
  templates : List String := []
  indexes : Dictionary (Option (List TableIndex)) := []
  titles : Dictionary String := []
  functionObjects : Dictionary String := []
  /-- The directory from which the template paths are seen; an empty one changes no path. -/
  directory : String := ""

/-! ### Reading -/

def indexOfNode (node : Yaml.Node) : Yaml.Reading TableIndex :=
  node.record "erd.IndexInfo" (fun i name =>
    match name with
    | "id" => some (Yaml.Node.field Yaml.Node.integer fun n => { i with id := n })
    | "key_columns" =>
        some (Yaml.Node.field (Yaml.Node.list "[]string" Yaml.Node.text)
          fun l => { i with keyColumns := l })
    | _ => none) ⟨0, none⟩

def indexesOfNode (node : Yaml.Node) : Yaml.Reading (Option (List TableIndex)) :=
  node.list "[]erd.IndexInfo" indexOfNode

def textsOfNode (node : Yaml.Node) : Yaml.Reading (Dictionary String) :=
  node.dictionary "map[string]string" Yaml.Node.text ""

namespace Manifest

def ofNode (node : Yaml.Node) : Yaml.Reading Manifest :=
  node.record "catalog.Manifest" (fun m name =>
    match name with
    | "environment" =>
        some (Yaml.Node.field Yaml.Node.text fun s => { m with environment := s })
    | "description" =>
        some (Yaml.Node.field Yaml.Node.text fun s => { m with description := s })
    | "templates" =>
        some (Yaml.Node.field (Yaml.Node.list "[]string" Yaml.Node.text)
          fun l => { m with templates := l.getD [] })
    | "indexes" =>
        some (Yaml.Node.field
          (Yaml.Node.dictionary "map[string][]erd.IndexInfo" indexesOfNode none)
          fun d => { m with indexes := d })
    | "titles" => some (Yaml.Node.field textsOfNode fun d => { m with titles := d })
    | "business_functions" =>
        some (Yaml.Node.field textsOfNode fun d => { m with functionObjects := d })
    | _ => none) {}

/-- **Reads a manifest.** -/
def load (files : FileTree) (path : String) : Except Failure Manifest :=
  match files.read path with
  | .error e => .error (.because "failed to read manifest" e)
  | .ok doc =>
      match Yaml.read ofNode {} doc with
      | .error fault => .error (.because "failed to parse manifest" (.plain fault.message))
      | .ok m => .ok { m with directory := Path.parent path }

def templatePath (m : Manifest) (path : String) : String :=
  if Path.isAbsolute path || m.directory = "" then path else Path.join m.directory path

end Manifest

/-! ### Importing -/

/-- **An entry of a manifest.** -/
inductive Entry where
  | template (path : String)
  | indexes (table : String) (list : Option (List TableIndex))
  | title (item text : String)
  | functionObject (owner object : String)
  deriving DecidableEq, Repr

/-- **The entries of a manifest**, in the order in which they are put into a store. -/
def Manifest.entries (m : Manifest) : List Entry :=
  m.templates.map .template ++ m.indexes.map (fun e => .indexes e.1 e.2) ++
    m.titles.map (fun e => .title e.1 e.2) ++
    m.functionObjects.map (fun e => .functionObject e.1 e.2)

/-- What an entry puts into a store, given how files are read. -/
def Entry.put (read : String → Except Failure Bytes) : Entry → Except Failure Put
  | .template path =>
      match read path with
      | .ok document => .ok (.template document)
      | .error e => .error (.because ("failed to read template " ++ path) e)
  | .indexes table list => .ok (.indexes table list)
  | .title item text => .ok (.title item text)
  | .functionObject owner object => .ok (.functionObject owner object)

def Entry.blame (e : Failure) : Entry → Failure
  | .template path => .because ("template " ++ path) e
  | _ => e

structure ImportStats where
  templates : Nat := 0
  tables : Nat := 0
  titles : Nat := 0
  functionObjects : Nat := 0
  deriving DecidableEq, Repr

def ImportStats.count (s : ImportStats) : Entry → ImportStats
  | .template _ => { s with templates := s.templates + 1 }
  | .indexes _ _ => { s with tables := s.tables + 1 }
  | .title _ _ => { s with titles := s.titles + 1 }
  | .functionObject _ _ => { s with functionObjects := s.functionObjects + 1 }

structure Imported where
  store : Store
  stats : ImportStats
  failure : Option Failure

def importEntry (read : String → Except Failure Bytes) (store : Store) (e : Entry) :
    Except Failure Store :=
  match e.put read with
  | .error f => .error f
  | .ok p =>
      match store.put p with
      | .error f => .error (e.blame f)
      | .ok store' => .ok store'

/-- **Puts entries into a store**, up to the first one that fails. -/
def importEntries (read : String → Except Failure Bytes) :
    List Entry → Store → ImportStats → Imported
  | [], store, stats => ⟨store, stats, none⟩
  | e :: rest, store, stats =>
      match importEntry read store e with
      | .error f => ⟨store, stats, some f⟩
      | .ok store' => importEntries read rest store' (stats.count e)

/-- **Puts the entries of a manifest into a store.** -/
def Manifest.importInto (m : Manifest) (files : FileTree) (store : Store) : Imported :=
  importEntries (fun path => files.read (m.templatePath path)) m.entries store {}

end EventRules.Catalog

/-
**The store of a catalog.**

A store holds four kinds of entries: template documents, the indexes of tables, the titles of data
items and the modules of business functions.  All of them are records in one dictionary.  The key of
a record is that of the name, behind a word for the kind, and the last record put under a key
counts.  Template documents are kept byte for byte, so that reading one back gives the very document
that was put in.

A put is checked before anything is written: a template has to be readable, a name must not be
blank, and a store that was opened for reading refuses every put.

Main definitions:

* `Catalog.Space`, `Catalog.Space.key` — the four kinds, and the keys of their records;
* `Catalog.Record`, `Catalog.Tables`, `Catalog.Store` — the contents of a store, and a store that is
  open;
* `Catalog.Put`, `Catalog.Store.put`, `Catalog.Store.putAll` — writing;
* `Catalog.Store.templateDocument`, `Catalog.Store.templateNames` — reading template documents;
* `Catalog.Store.source` — the store as a source of metadata.
-/

import EventRules.CatalogKey
import EventRules.Metadata.Source
import EventRules.Text.Search

set_option relaxedAutoImplicit false
set_option autoImplicit false

namespace EventRules.Catalog

/-! ### Records -/

/-- **A kind of entries.** -/
inductive Space where
  | templates
  | indexes
  | titles
  /-- The modules of business functions, by the templates of their parameters. -/
  | functionObjects
  deriving DecidableEq, Repr

namespace Space

def start : Space → String
  | .templates => "tmpl/"
  | .indexes => "idx/"
  | .titles => "dd/"
  | .functionObjects => "bf/"

/-- **The key of a record**: that of its name, behind the word for its kind. -/
def key (space : Space) (name : String) : String :=
  space.start ++ catalogKey name

end Space

/-- **A record of a store.** -/
inductive Record where
  | document (bytes : Bytes)
  /-- The indexes of a table; the list may be absent. -/
  | indexes (list : Option (List TableIndex))
  | text (text : String)
  deriving DecidableEq, Repr

namespace Record

def document? : Record → Option Bytes
  | .document bytes => some bytes
  | _ => none

def indexes? : Record → Option (Option (List TableIndex))
  | .indexes list => some list
  | _ => none

def text? : Record → Option String
  | .text t => some t
  | _ => none

end Record

/-- **The contents of a store.** -/
structure Tables where
  records : Dictionary Record := []
  deriving DecidableEq, Repr

/-- **An open store.** -/
structure Store where
  tables : Tables := {}
  readOnly : Bool := false
  deriving DecidableEq, Repr

/-! ### Writing -/

/-- **An entry to be put into a store.** -/
inductive Put where
  /-- A template document, stored under the name it gives itself. -/
  | template (document : Bytes)
  | indexes (table : String) (indexes : Option (List TableIndex))
  | title (item title : String)
  | functionObject (template object : String)
  deriving DecidableEq, Repr

def blankName (what : String) : Failure :=
  .because (what ++ " is empty") (.sentinel .invalidInput)

def readOnlyStore : Failure :=
  .because "catalog is read-only" (.sentinel .invalidInput)

namespace Put

/-- An entry under a name, which must not be blank; `what` says what the name is. -/
def named (space : Space) (what name : String) (record : Record) :
    Except Failure (String × Record) :=
  if Text.trim name = "" then .error (blankName what) else .ok (space.key name, record)

/-- **The record of an entry**, with its key. -/
def entry : Put → Except Failure (String × Record)
  | .template document =>
      (Template.parse "template" document).map fun t =>
        (Space.templates.key t.name, .document document)
  | .indexes table list => named .indexes "table name" table (.indexes list)
  | .title item text => named .titles "data item" item (.text text)
  | .functionObject owner object =>
      named .functionObjects "template name" owner (.text object)

end Put

namespace Store

/-- **Puts an entry into a store.** -/
def put (store : Store) (p : Put) : Except Failure Store :=
  match p.entry with
  | .error e => .error e
  | .ok (key, record) =>
      if store.readOnly then .error readOnlyStore
      else .ok { store with tables := ⟨store.tables.records.insert key record⟩ }

/-- Puts a template document into a store and gives the template it describes. -/
def putTemplate (store : Store) (document : Bytes) : Except Failure (Template × Store) := do
  let t ← Template.parse "template" document
  let store' ← store.put (.template document)
  return (t, store')

/-- Puts entries in order; one that is refused changes nothing. -/
def putAll (store : Store) (puts : List Put) : Store :=
  puts.foldl (fun s p => (s.put p).toOption.getD s) store

/-! ### Reading -/

def notFound (key : String) : Failure :=
  .because key (.sentinel .notFound)

/-- What the store has of a kind, by the key of the name. -/
def lookup? {α : Type} (store : Store) (space : Space) (read : Record → Option α)
    (key : String) : Option α :=
  (store.tables.records.get? (space.start ++ key)).bind read

/-- What the store has of a kind, by the name. -/
def find {α : Type} (store : Store) (space : Space) (read : Record → Option α) (name : String) :
    Except Failure α :=
  match store.lookup? space read (catalogKey name) with
  | some a => .ok a
  | none => .error (notFound (space.key name))

/-- **The document of a template**, as it was put in. -/
def templateDocument (store : Store) (name : String) : Except Failure Bytes :=
  store.find .templates Record.document? name

def template (store : Store) (name : String) : Except Failure Template := do
  let document ← store.templateDocument name
  Template.parse name document

def templateKey? (key : String) : Option String :=
  (Text.strip? Space.templates.start.toList key.toList).map String.ofList

/-- **The keys of all templates**, in byte order. -/
def templateNames (store : Store) : List String :=
  store.tables.records.keys.filterMap templateKey?

def indexes (store : Store) (table : String) : Except Failure (Option (List TableIndex)) :=
  store.find .indexes Record.indexes? table

/-- The title of a data item, by the key of the item. -/
def title? (store : Store) (key : String) : Option String :=
  store.lookup? .titles Record.text? key

def titles (store : Store) (items : List String) : Dictionary String :=
  Dictionary.ofList (items.filterMap fun item => (store.title? (catalogKey item)).map (item, ·))

def functionObject (store : Store) (template : String) : Except Failure String :=
  store.find .functionObjects Record.text? template

/-- **The store as a source of metadata.**  Once the request has been withdrawn it answers
nothing. -/
def source (withdrawn : Bool) : Source Store where
  template name s :=
    (if withdrawn then .error .cancelled else (s.template name).map some, s)
  indexes table s :=
    (if withdrawn then .error .cancelled else s.indexes table, s)
  titles items s :=
    (if withdrawn then .error .cancelled else .ok (s.titles items), s)
  functionObject template s :=
    (if withdrawn then .error .cancelled else s.functionObject template, s)

end Store

end EventRules.Catalog

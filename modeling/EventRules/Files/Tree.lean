/-
**Files and directories.**

A file tree says what stands at which place; a place is the list of names that lead to it from the
root.  Besides files and directories there is one kind of contents that this library writes itself:
the database of a catalog, which to everyone else is a directory.

A path is followed name by name.  Every name but the last has to lead to a directory, and a slash
at the end demands a directory as well.  A name that is too long is noticed when it is looked up, a
path that is too long or holds a character that none can hold before that.

Main definitions:

* `FileTree`, `FileEntry` — a tree, and what stands at a place;
* `FileTree.find` — the place that a path leads to;
* `FileTree.read`, `FileTree.write`, `FileTree.makeAll`, `FileTree.list`, `FileTree.removeAll` —
  what can be done with it.
-/

import EventRules.Catalog.Store
import EventRules.Files.Path

set_option relaxedAutoImplicit false
set_option autoImplicit false

namespace EventRules

/-- **What stands at a place.** -/
inductive FileEntry where
  | directory
  | file (content : Bytes)
  | database (tables : Catalog.Tables)

def FileEntry.isDirectory : FileEntry → Bool
  | .directory => true
  | .database _ => true
  | _ => false

/-- **A file tree.** -/
structure FileTree where
  /-- The place where relative paths start. -/
  workingPlace : List String := []
  /-- What stands at each place but the root, which is a directory. -/
  entries : Dictionary FileEntry := []

namespace FileTree

/-- The key of a place: its names, each with a slash before it. -/
def key (place : List String) : String :=
  String.join (place.map ("/" ++ ·))

def entry? (t : FileTree) (place : List String) : Option FileEntry :=
  if place.isEmpty then some .directory else t.entries.get? (key place)

/-- Why names cannot be looked up at a place; nothing if they can. -/
def blocked? (t : FileTree) (place : List String) : Option FileFault :=
  match t.entry? place with
  | none => some .missing
  | some e => if e.isDirectory then none else some .notDirectory

def nameLimit : Nat := 255

def pathLimit : Nat := 4095

def follow (t : FileTree) : List String → List String → Except FileFault (List String)
  | place, [] => .ok place
  | place, name :: rest =>
      match t.blocked? place with
      | some fault => .error fault
      | none =>
          if name = "" || name = "." then t.follow place rest
          else if name = ".." then t.follow place.dropLast rest
          else if nameLimit < Utf8.size name then .error .tooLong
          else t.follow (place ++ [name]) rest

/-- **The place that a path leads to.**  What stands there need not exist. -/
def find (t : FileTree) (path : String) : Except FileFault (List String) :=
  if path.toList.contains '\x00' then .error .invalid
  else if path = "" then .error .missing
  else if pathLimit < Utf8.size path then .error .tooLong
  else t.follow (if Path.isAbsolute path then [] else t.workingPlace) (Path.names path)

def absolute (t : FileTree) (path : String) : String :=
  if Path.isAbsolute path then path else Path.join (key t.workingPlace) path

def look (t : FileTree) (path : String) : Except FileFault FileEntry := do
  match t.entry? (← t.find path) with
  | some e => return e
  | none => .error .missing

def set (t : FileTree) (place : List String) (e : FileEntry) : FileTree :=
  { t with entries := t.entries.insert (key place) e }

/-! ### Operations -/

/-- **The content of a file.** -/
def read (t : FileTree) (path : String) : Except Failure Bytes :=
  match t.look path with
  | .ok (.file content) => .ok content
  | .ok _ => .error (.file "read" path .isDirectory)
  | .error fault => .error (.file "open" path fault)

/-- **Writes a file** where a path leads to; the directory has to exist. -/
def write (t : FileTree) (path : String) (content : Bytes) : Except Failure FileTree :=
  match t.find path with
  | .error fault => .error (.file "open" path fault)
  | .ok place =>
      match t.blocked? place.dropLast, t.entry? place with
      | some fault, _ => .error (.file "open" path fault)
      | none, some old =>
          if old.isDirectory then .error (.file "open" path .isDirectory)
          else .ok (t.set place (.file content))
      | none, none => .ok (t.set place (.file content))

/-- Makes a directory, unless there is one; the directory above it has to exist. -/
def make (t : FileTree) (path : String) : Except Failure FileTree :=
  match t.look path with
  | .ok e => if e.isDirectory then .ok t else .error (.file "mkdir" path .notDirectory)
  | .error _ =>
      match t.find path with
      | .ok place => .ok (t.set place .directory)
      | .error fault => .error (.file "mkdir" path fault)

/-- Makes directories in order, up to the first that cannot be made. -/
def makeEach : FileTree → List String → Except Failure Unit × FileTree
  | t, [] => (.ok (), t)
  | t, path :: paths =>
      match t.make path with
      | .ok t' => makeEach t' paths
      | .error e => (.error e, t)

/-- **Makes a directory with all the directories on the way to it.**  If one of them cannot be made,
those before it have been. -/
def makeAll (t : FileTree) (path : String) : Except Failure Unit × FileTree :=
  t.makeEach (Path.ancestors path ++ [path])

/-- The name of an entry right below a place, given its key. -/
def nameBelow? (place : List String) (entryKey : String) : Option String :=
  match Text.strip? (key place ++ "/").toList entryKey.toList with
  | some name => if name.contains '/' then none else some (String.ofList name)
  | none => none

/-- The entries right below a place, in byte order of their names. -/
def below (t : FileTree) (place : List String) : List (String × FileEntry) :=
  t.entries.filterMap fun e => (nameBelow? place e.1).map (·, e.2)

/-- **The entries of a directory**, in byte order of their names. -/
def list (t : FileTree) (path : String) : Except Failure (List (String × FileEntry)) :=
  match t.find path with
  | .error fault => .error (.file "open" path fault)
  | .ok place =>
      match t.blocked? place with
      | some fault => .error (.file "open" path fault)
      | none => .ok (t.below place)

/-- Removes what stands at a place, with everything below it. -/
def removeAt (t : FileTree) (place : List String) : FileTree :=
  { t with entries := t.entries.filter fun e =>
      e.1 != key place && (Text.strip? (key place ++ "/").toList e.1.toList).isNone }

/-- **Removes what a path leads to**, with everything below it; nothing if there is nothing. -/
def removeAll (t : FileTree) (path : String) : FileTree :=
  match t.find path with
  | .ok place => t.removeAt place
  | .error _ => t

end FileTree

end EventRules

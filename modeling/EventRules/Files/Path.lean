/-
**Paths.**

A path is a text of names with slashes between them; one that starts with a slash is absolute.
The operations here look at the text alone and not at any file: cleaning a path drops empty names
and single dots and lets a double dot take back the name before it.

Main definitions:

* `Path.names`, `Path.isAbsolute` — the parts of a path;
* `Path.clean`, `Path.join`, `Path.parent` — paths made from paths;
* `Path.ancestors` — the directories on the way to a path.
-/

import EventRules.Text.Search

set_option relaxedAutoImplicit false
set_option autoImplicit false

namespace EventRules.Path

def isAbsolute (path : String) : Bool :=
  path.toList.head? == some '/'

/-- The names of a path, in order; some may be empty. -/
def names (path : String) : List String :=
  (Text.splitOn '/' path.toList).map String.ofList

/-- One more name, given the names kept so far in reverse order. -/
def cleanName (absolute : Bool) (kept : List String) (name : String) : List String :=
  if name = "" || name = "." then kept
  else if name = ".." then
    match kept with
    | [] => if absolute then [] else [".."]
    | last :: rest => if last = ".." then ".." :: kept else rest
  else name :: kept

/-- **The shortest path that means the same**; a single dot if nothing is left. -/
def clean (path : String) : String :=
  let absolute := isAbsolute path
  let kept := Text.join "/" ((names path).foldl (cleanName absolute) []).reverse
  if absolute then "/" ++ kept else if kept = "" then "." else kept

def join (directory path : String) : String :=
  if directory = "" then (if path = "" then "" else clean path)
  else clean (directory ++ "/" ++ path)

/-- The path up to its last slash, which is included. -/
def upToSlash (path : String) : List Char :=
  (path.toList.reverse.dropWhile (· != '/')).reverse

/-- **The directory that a path leads to or through.** -/
def parent (path : String) : String :=
  clean (String.ofList (upToSlash path))

/-- The beginnings of a path up to each slash, which is left out, shortest first, given what stands
before in reverse order. -/
def ancestorsFrom : List Char → List Char → List String
  | _, [] => []
  | before, c :: cs =>
      if c = '/' && !before.isEmpty then
        String.ofList before.reverse :: ancestorsFrom (c :: before) cs
      else ancestorsFrom (c :: before) cs

/-- **The directories on the way to a path.** -/
def ancestors (path : String) : List String :=
  ancestorsFrom [] path.toList

end EventRules.Path

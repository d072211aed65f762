/-
**Responses, and redirections among them.**

A redirection sends the client to another place.  Someone who passes requests on may have taken a
beginning off the path; what the client is told then starts with that beginning, as far as it
consists of letters, digits, hyphens and slashes.

The place is written as a reference.  One that starts with two slashes, but not with three, names a
host and is left as it is; any other is a path, which is cleaned, and one that does not start with a
slash is taken from the directory it stands in itself.

Main definitions:

* `Http.Response` — what goes out;
* `Http.forwarded` — the beginning that was taken off a path;
* `Http.resolve` — a reference as the client is told it;
* `Http.redirection` — the redirection to a path without the slash at its end.
-/

import EventRules.Files.Path
import EventRules.Http.Target
import EventRules.Json.Value

set_option relaxedAutoImplicit false
set_option autoImplicit false

namespace EventRules.Http

inductive Body where
  | empty
  | text (s : String)
  | json (j : Json)

/-- **A response.** -/
structure Response where
  status : Int
  /-- The id of the request; empty if it has none. -/
  requestId : String := ""
  /-- What the body is; empty if there is none. -/
  contentType : String := ""
  location : Option String := none
  body : Body := .empty

/-! ### Redirections -/

def pageText (s : String) : String :=
  String.join (s.toList.map fun c =>
    match c with
    | '&' => "&amp;"
    | '<' => "&lt;"
    | '>' => "&gt;"
    | '"' => "&#34;"
    | '\x27' => "&#39;"
    | c => String.ofList [c])

/-- A character that may stand in the beginning of a path that someone else tells. -/
def isForwardable (c : Char) : Bool :=
  c.isAlphanum || c == '/' || c == '-'

def singleSlashes : List Char → List Char
  | '/' :: '/' :: cs => singleSlashes ('/' :: cs)
  | c :: cs => c :: singleSlashes cs
  | [] => []

/-- **What stands before a path** for the client, given the beginning that was taken off it: that
and a slash, or nothing if none was. -/
def forwarded (beginning : String) : String :=
  let cleaned := Path.clean beginning
  if cleaned = "." then ""
  else String.ofList (singleSlashes (cleaned.toList.filter isForwardable)) ++ "/"

/-- A path cleaned, but with the slash at its end if it has one. -/
def cleanLocation (path : String) : String :=
  let cleaned := Path.clean path
  if path.toList.getLast? == some '/' && cleaned.toList.getLast? != some '/' then cleaned ++ "/"
  else cleaned

/-- **A reference as the client is told it.** -/
def resolve (reference : String) : String :=
  match reference.toList with
  | '/' :: '/' :: '/' :: _ => cleanLocation reference
  | '/' :: '/' :: _ => reference
  | '/' :: _ => cleanLocation reference
  | _ => cleanLocation (String.ofList (Path.upToSlash reference) ++ reference)

/-- **The redirection to a path without the slash at its end**, with a page for those who asked for
one. -/
def redirection (withPage : Bool) (beginning : String) (target : Target) : Response :=
  let location :=
    resolve (forwarded beginning ++ escapePath target.path.dropLast) ++ target.query
  if withPage then
    { status := 301
      contentType := "text/html; charset=utf-8"
      location := some (escapeForeign location)
      body := .text ("<a href=\"" ++ pageText location ++ "\">Moved Permanently</a>.\n\n") }
  else { status := 307, location := some (escapeForeign location) }

end EventRules.Http

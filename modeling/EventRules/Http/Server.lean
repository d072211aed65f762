/-
**The server.**

Requests are answered with JSON.  Every request has an id, its own or a new one, which the answer
repeats.  A failure is answered with its status, its headline and its full wording.

A path with one slash too many at the end is not answered but redirected to the path without it;
that happens before the request has an id.

Main definitions:

* `Http.Request` — what comes in;
* `Http.Route`, `Http.Route.find?`, `Http.isRedirected` — which requests are known;
* `Http.answer` — the answer to a request.
-/

import EventRules.Http.RequestBody
import EventRules.Http.Response
import EventRules.Json.Reader
import EventRules.View

set_option relaxedAutoImplicit false
set_option autoImplicit false

namespace EventRules.Http

/-- **A request.** -/
structure Request where
  method : String
  /-- The target as it is written. -/
  target : String
  headers : List (String × String) := []
  /-- The body; empty if there is none. -/
  body : Bytes := []

/-- The first value of a header; ASCII letters of its name may be of either case. -/
def Request.header (r : Request) (name : String) : String :=
  ((r.headers.find? fun h => h.1.toLower == name.toLower).map (·.2)).getD ""

/-! ### Routes -/

/-- **What can be asked for.** -/
inductive Route where
  | health
  | environments
  | decompile
  | batch
  | templates
  | template (name : String)
  deriving DecidableEq, Repr

namespace Route

/-- The paths of the routes that stand alone, by method. -/
def fixed : List (String × String × Route) :=
  [("GET", "/health", .health), ("GET", "/v1/environments", .environments),
    ("GET", "/v1/templates", .templates), ("POST", "/v1/decompile", .decompile),
    ("POST", "/v1/decompile/batch", .batch)]

/-- The name of the template that a path asks for; it holds no slash, and may be empty. -/
def templateName? (method path : String) : Option String :=
  match method, Text.strip? "/v1/templates/".toList path.toList with
  | "GET", some name => if name.contains '/' then none else some (String.ofList name)
  | _, _ => none

/-- **The route of a path.** -/
def find? (method path : String) : Option Route :=
  match fixed.find? fun r => r.1 == method && r.2.1 == path with
  | some r => some r.2.2
  | none =>
      match templateName? method path with
      | some name => if name = "" then none else some (.template name)
      | none => none

end Route

/-- **Is a path redirected?**  It is if it has one slash more than a known path. -/
def isRedirected (method path : String) : Bool :=
  match path.toList.reverse with
  | '/' :: c :: rest =>
      let shorter := String.ofList (c :: rest).reverse
      (Route.find? method shorter).isSome || (Route.templateName? method shorter).isSome
  | _ => false

/-! ### Answers -/

def badBody (fault : Json.Fault) : Failure :=
  .app 400 "Invalid request body" (some (.plain fault.message))

def missingEnvironment : Failure :=
  .app 400 "Missing env parameter" none

def jsonResponse (status : Int) (requestId : String) (j : Json) : Response where
  status := status
  requestId := requestId
  contentType := "application/json; charset=utf-8"
  body := .json j

/-- **The response to a failure.** -/
def failureResponse (requestId : String) (f : Failure) : Response :=
  let s := f.status
  jsonResponse s.code requestId
    (.object [("error", .string s.headline), ("detail", .string f.message),
      ("request_id", .string requestId)])

/-- The matches of a search.  A search that finds nothing has no list at all. -/
def templatesJson (query : String) (found : List TemplateMatch) : Json :=
  .object [("templates",
    if found.isEmpty && !Text.isBlank query then .null
    else .array (found.map TemplateMatch.json))]

/-- The value that a route is answered with, or the failure.  `newId` supplies the ids of a batch
and its requests. -/
def serve (newId : Nat → String) (target : Target) (body : Bytes) (route : Route) (s : Service) :
    Except Failure Json × Service :=
  let environment := target.value "env"
  match route with
  | .health => (.ok .null, s)
  | .environments =>
      let (result, s') := s.environments
      (result.map Environment.listJson, s')
  | .decompile =>
      match (Json.read body).bind (readRequest {}) with
      | .error fault => (.error (badBody fault), s)
      | .ok written =>
          let r := written.request
          let r := if r.environment = "" then { r with environment := environment } else r
          let (result, s') := s.decompile false r
          (result.map Decompiled.json, s')
  | .batch =>
      match (Json.read body).bind readBatch with
      | .error fault => (.error (badBody fault), s)
      | .ok b =>
          let requests := b.requests.items.map RequestBody.request
          let order := List.range requests.length
          let (result, s') := s.runBatch newId order false b.environment requests
          (result.map Batch.json, s')
  | .templates =>
      if environment = "" then (.error missingEnvironment, s)
      else
        let query := target.value "q"
        let (result, s') := s.templates environment query (Numeral.lenient (target.value "limit"))
        (result.map (templatesJson query), s')
  | .template name =>
      if environment = "" then (.error missingEnvironment, s)
      else
        let (result, s') := s.template false environment name
        (result.map Template.json, s')

/-- **The answer to a request.**  `newId` supplies ids, the first of which goes to a request that
has none. -/
def answer (newId : Nat → String) (r : Request) (s : Service) : Response × Service :=
  let target := Target.parse r.target
  match Route.find? r.method target.pathText, isRedirected r.method target.pathText with
  | none, true =>
      (redirection (r.method == "GET") (r.header "X-Forwarded-Prefix") target, s)
  | found, _ =>
      let own := r.header "X-Request-ID"
      let requestId := if own = "" then newId 0 else own
      match found with
      | none =>
          ({ status := 404
             requestId := requestId
             contentType := "text/plain"
             body := .text "404 page not found" }, s)
      | some .health => ({ status := 200, requestId := requestId }, s)
      | some route =>
          match serve (fun i => newId (i + 1)) target r.body route s with
          | (.ok j, s') => (jsonResponse 200 requestId j, s')
          | (.error f, s') => (failureResponse requestId f, s')

end EventRules.Http

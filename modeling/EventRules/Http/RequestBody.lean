/-
**The bodies of requests.**

A request to decompile, or a batch of them, comes in as a JSON value.  A field that is given more
than once is read more than once, each time over what was read before: an item of a list that says
nothing keeps what an earlier list had at its position.

Main definitions:

* `Http.RequestBody`, `Http.RequestBody.request` — a request as it is being read, and what it asks
  for;
* `Http.readRequest`, `Http.readBatch` — reading bodies.
-/

import EventRules.Json.Value
import EventRules.Service

set_option relaxedAutoImplicit false
set_option autoImplicit false

namespace EventRules.Http

/-- **A request to decompile as it is being read.** -/
structure RequestBody where
  id : String := ""
  environment : String := ""
  events : Json.Slots String := {}
  template : String := ""
  templateName : String := ""
  deriving DecidableEq, Repr

/-- **What a body asks for.** -/
def RequestBody.request (b : RequestBody) : DecompileRequest where
  id := b.id
  environment := b.environment
  events := b.events.items.map Utf8.encode
  template := Utf8.encode b.template
  templateName := b.templateName

def requestField (b : RequestBody) (name : String) (j : Json) : Except Json.Fault RequestBody := do
  if Json.isField "id" name then return { b with id := ← j.text b.id }
  else if Json.isField "environment" name then
    return { b with environment := ← j.text b.environment }
  else if Json.isField "events" name then
    return { b with events := ← j.items "" Json.text b.events }
  else if Json.isField "template_xml" name then
    return { b with template := ← j.text b.template }
  else if Json.isField "template_name" name then
    return { b with templateName := ← j.text b.templateName }
  else return b

/-- **A value as a request to decompile**, read over another one. -/
def readRequest (before : RequestBody) (j : Json) : Except Json.Fault RequestBody :=
  j.fold requestField before

/-- The requests of a batch with the environment of those that name none. -/
structure BatchBody where
  /-- The environment of requests that name none. -/
  environment : String := ""
  requests : Json.Slots RequestBody := {}
  deriving DecidableEq, Repr

/-- **A value as the requests of a batch.** -/
def readBatch (j : Json) : Except Json.Fault BatchBody :=
  j.fold (fun b name j => do
    if Json.isField "environment" name then return { b with environment := ← j.text b.environment }
    else if Json.isField "requests" name then
      return { b with requests := ← j.items {} readRequest b.requests }
    else return b) {}

end EventRules.Http

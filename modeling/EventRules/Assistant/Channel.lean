/-
**The channel to an assistant.**

Messages go back and forth as JSON values, one on a line.  A message with an id asks for an answer;
one without is a notice and gets none.  The answer repeats the id, a number in it being of double
precision.  A line that is not finished when the channel closes is not
looked at.

Main definitions:

* `Assistant.Message` — a message that comes in;
* `Assistant.answer?` — the answer to a message;
* `Assistant.converse` — the answers to everything that comes in.
-/

import EventRules.Assistant.Tools
import EventRules.Json.Reader

set_option relaxedAutoImplicit false
set_option autoImplicit false

namespace EventRules.Assistant

def success (id result : Json) : Json :=
  .object [("jsonrpc", .string "2.0"), ("id", id), ("result", result)]

def refusal (id : Json) (code : Int) (text : String) : Json :=
  .object [("jsonrpc", .string "2.0"), ("id", id),
    ("error", .object [("code", .ofInt code), ("message", .string text)])]

/-- The versions of the protocol that are spoken, the latest first. -/
def versions : List String :=
  ["2025-06-18", "2025-03-26", "2024-11-05"]

/-- The version of the protocol for an assistant that asks for one: that one if it is spoken, else
the latest. -/
def agreedVersion (wanted : String) : String :=
  if wanted = "" then "2025-03-26"
  else if wanted ∈ versions then wanted
  else "2025-06-18"

def greeting (parameters : Json) : Json :=
  .object
    [("protocolVersion",
        .string (agreedVersion ((textArgument? parameters "protocolVersion").getD ""))),
      ("capabilities",
        .object [("logging", .object []),
          ("resources", .object [("subscribe", .bool true), ("listChanged", .bool true)]),
          ("tools", .object [("listChanged", .bool true)])]),
      ("serverInfo", .object [("name", .string "GERD"), ("version", .string "0.1.0")])]

def Resource.json (r : Resource) : Json :=
  .object [("uri", .string r.uri), ("name", .string r.name),
    ("description", .string r.description), ("mimeType", .string r.contentType)]

def contentJson (r : Resource) (text : String) : Json :=
  .object [("contents", .array [.object [("uri", .string r.uri),
    ("mimeType", .string r.contentType), ("text", .string text)]])]

def ToolAnswer.json (a : ToolAnswer) : Json :=
  .object ([("content", .array [.object [("type", .string "text"), ("text", .string a.text)]])] ++
    if a.isError then [("isError", .bool true)] else [])

def Argument.json (a : Argument) : String × Json :=
  (a.name, .object [("description", .string a.description), ("type", .string a.kind)])

def Tool.json (t : Tool) : Json :=
  .object [("description", .string t.description),
    ("inputSchema", .object [("type", .string "object"),
      ("properties", .object (t.arguments.map Argument.json)),
      ("required", .array ((t.arguments.filter (·.required)).map fun a => .string a.name))]),
    ("name", .string t.name)]

def respond (id : Json) (method : String) (parameters : Json) (s : Service) : Json × Service :=
  match method with
  | "initialize" => (success id (greeting parameters), s)
  | "ping" => (success id (.object []), s)
  | "resources/list" =>
      (success id (.object [("resources", .array (resources.map Resource.json))]), s)
  | "resources/read" =>
      match readResource ((textArgument? parameters "uri").getD "") s with
      | (.ok (r, text), s') => (success id (contentJson r text), s')
      | (.error e, s') => (refusal id e.code e.message, s')
  | "tools/list" => (success id (.object [("tools", .array (tools.map Tool.json))]), s)
  | "tools/call" =>
      let arguments := (parameters.field? "arguments").getD .null
      match callTool ((textArgument? parameters "name").getD "") arguments s with
      | (.ok a, s') => (success id a.json, s')
      | (.error e, s') => (refusal id e.code e.message, s')
  | other => (refusal id (-32601) ("Method " ++ other ++ " not found"), s)

/-- **A message that comes in.** -/
structure Message where
  version : String := ""
  /-- The id; no value if the message asks for no answer. -/
  id : Json := .null
  method : String := ""
  /-- The result, if the message is itself an answer. -/
  result : Json := .null
  parameters : Json := .null

def kept (j : Json) : Except Json.Fault Json :=
  match j.rounded? with
  | some k => .ok k
  | none => .error (.kind "number")

/-- **A value as a message.** -/
def Message.read (j : Json) : Except Json.Fault Message :=
  j.fold (fun m name j => do
    if Json.isField "jsonrpc" name then return { m with version := ← j.text m.version }
    else if Json.isField "method" name then return { m with method := ← j.text m.method }
    else if Json.isField "id" name then return { m with id := ← kept j }
    else if Json.isField "result" name then return { m with result := ← kept j }
    else if Json.isField "params" name then return { m with parameters := j }
    else return m) {}

def isParameters : Json → Bool
  | .null => true
  | .object _ => true
  | _ => false

def unreadable : Int := -32700

/-- **The answer to a line**, if it gets one. -/
def answer? (line : Bytes) (s : Service) : Option Json × Service :=
  match Json.readWhole line with
  | .error _ => (some (refusal .null unreadable "Parse error"), s)
  | .ok j =>
      match Message.read j with
      | .error _ => (some (refusal .null unreadable "Failed to parse message"), s)
      | .ok m =>
          if m.version != "2.0" then (some (refusal m.id (-32600) "Invalid JSON-RPC version"), s)
          else
            match m.id, m.result with
            | .null, _ =>
                if isParameters m.parameters then (none, s)
                else (some (refusal .null unreadable "Failed to parse notification"), s)
            | id, .null =>
                let (a, s') := respond id m.method m.parameters s
                (some a, s')
            | _, _ => (none, s)

/-- The finished lines, given what has been read of the next one in reverse order. -/
def finishedLines : Bytes → Bytes → List Bytes
  | _, [] => []
  | read, b :: rest =>
      if b = 10 then read.reverse :: finishedLines [] rest else finishedLines (b :: read) rest

def answerAll : List Bytes → Service → String × Service
  | [], s => ("", s)
  | line :: rest, s =>
      let (a, s') := answer? line s
      let (text, s'') := answerAll rest s'
      (a.elim "" (·.render ++ "\n") ++ text, s'')

/-- **The answers to everything that comes in**, one on a line. -/
def converse (input : Bytes) (s : Service) : String × Service :=
  answerAll (finishedLines [] input) s

end EventRules.Assistant

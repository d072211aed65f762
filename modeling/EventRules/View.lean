/-
**Results as JSON.**

The same results go out over several ways: as the answers of the server, as the resources of the
assistant interface and on the command line.  Here is the one form that they have as JSON, with the
fields in their order; fields that are empty and need not be there are left out.

Main definitions:

* `Decompiled.json`, `Batch.json` — decompiled rules;
* `Environment.json`, `TemplateMatch.json`, `Template.json` — what the catalogs hold.
-/

import EventRules.Json.Value
import EventRules.Service

set_option relaxedAutoImplicit false
set_option autoImplicit false

namespace EventRules

def Line.json (l : Line) : Json :=
  .object [("indent", .ofInt l.depth), ("text", .string l.text)]

/-- **A decompiled rule.** -/
def Decompiled.json (r : Decompiled) : Json :=
  .object [("root_event_spec_key", .string r.key), ("readable_text", .string r.text),
    ("template_name", .string r.templateName), ("lines", .array (r.lines.map Line.json))]

/-- The outcome of one request of a batch: its result, or its failure. -/
def BatchItem.json (i : BatchItem) : Json :=
  .object (("id", .string i.id) ::
    match i.outcome with
    | .ok r => [("result", r.json)]
    | .error text => [("error", .string text)])

/-- **The outcome of a batch.** -/
def Batch.json (b : Batch) : Json :=
  .object [("batch_id", .string b.id), ("items", .array (b.items.map BatchItem.json)),
    ("failed", .ofNat b.failures)]

/-- **An environment.** -/
def Environment.json (e : Environment) : Json :=
  .object [("id", .string e.id), ("name", .string e.name), ("description", .string e.description)]

def Environment.listJson (l : List Environment) : Json :=
  .array (l.map Environment.json)

def TemplateItem.json (i : TemplateItem) : Json :=
  .object ([("id", .string i.id), ("alias", .string i.dataItem), ("name", .string i.name),
    ("display_seq", .ofInt i.displaySeq)] ++
    if i.copyWord = "" then [] else [("copy_word", .string i.copyWord)])

/-- **A template.** -/
def Template.json (t : Template) : Json :=
  .object [("name", .string t.name), ("description", .string t.description),
    ("items", .array (t.items.map TemplateItem.json))]

/-- **A template name with its score**, by the fewest decimal places. -/
def TemplateMatch.json (m : TemplateMatch) : Json :=
  .object [("name", .string m.name), ("score", .number (Numeral.shortest m.similarity.shown))]

end EventRules

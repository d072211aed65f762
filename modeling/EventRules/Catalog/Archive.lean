/-
**Catalogs in files.**

The contents of a catalog are written to a file as one JSON document.  The records are written as a
list of pairs, so that their keys need no particular form, and template documents byte by byte in
hexadecimal digits.

Main definitions:

* `Catalog.Tables.archive` — contents as a document;
* `Catalog.Tables.ofArchive?` — the contents of a document.
-/

import EventRules.Catalog.Store
import EventRules.Json.Reader
import EventRules.Json.Writer

set_option relaxedAutoImplicit false
set_option autoImplicit false

namespace EventRules.Catalog

/-! ### Writing -/

/-- Bytes as hexadecimal digits, two for each. -/
def hexText (bs : Bytes) : String :=
  String.ofList (bs.flatMap fun b => Text.hexDigits 2 b.toNat)

def optionalJson {α : Type} (value : α → Json) : Option α → Json
  | none => .null
  | some a => value a

/-- An index: its number and its key columns. -/
def indexJson (i : TableIndex) : Json :=
  .array [.ofInt i.id, optionalJson (fun cs => .array (cs.map .string)) i.keyColumns]

/-- A record, behind a word for its form. -/
def Record.json : Record → Json
  | .document bytes => .array [.string "document", .string (hexText bytes)]
  | .indexes list =>
      .array [.string "indexes", optionalJson (fun l => .array (l.map indexJson)) list]
  | .text t => .array [.string "text", .string t]

/-- **Contents as a document.** -/
def Tables.archive (t : Tables) : Bytes :=
  let json : Json := .array (t.records.map fun e => .array [.string e.1, e.2.json])
  Utf8.encode json.render

/-! ### Reading -/

def bytesOfHex? : List Char → Option Bytes
  | [] => some []
  | [_] => none
  | a :: b :: rest => do
      let high ← Text.hexDigit? a
      let low ← Text.hexDigit? b
      return UInt8.ofNat (high * 16 + low) :: (← bytesOfHex? rest)

def textOf? : Json → Option String
  | .string s => some s
  | _ => none

def itemsOf? : Json → Option (List Json)
  | .array l => some l
  | _ => none

def optionalOf? {α : Type} (read : Json → Option α) : Json → Option (Option α)
  | .null => some none
  | j => (read j).map some

def listOf? {α : Type} (read : Json → Option α) (j : Json) : Option (List α) := do
  (← itemsOf? j).mapM read

def indexOf? : Json → Option TableIndex
  | .array [.number ⟨negative, digits, 0⟩, columns] =>
      (optionalOf? (listOf? textOf?) columns).map
        (⟨if negative then -(digits : Int) else digits, ·⟩)
  | _ => none

def Record.ofJson? : Json → Option Record
  | .array [.string "document", .string digits] => (bytesOfHex? digits.toList).map .document
  | .array [.string "indexes", list] => (optionalOf? (listOf? indexOf?) list).map .indexes
  | .array [.string "text", .string t] => some (.text t)
  | _ => none

def entryOf? : Json → Option (String × Record)
  | .array [.string key, record] => (Record.ofJson? record).map (key, ·)
  | _ => none

def Tables.ofJson? (j : Json) : Option Tables :=
  (listOf? entryOf? j).map fun entries => ⟨Dictionary.ofList entries⟩

/-- **The contents of a document.** -/
def Tables.ofArchive? (document : Bytes) : Option Tables :=
  match Json.read document with
  | .ok j => ofJson? j
  | .error _ => none

end EventRules.Catalog

/-
**JSON values.**

Requests come in as JSON documents and answers go out as such.  A number is kept as it is written,
as digits with an exponent, so that reading one never has to round it.

An object keeps its fields in order.  When it is read as something, the name of a field may differ
in letter case; of several fields with one name the later one is read after the earlier one.

Main definitions:

* `Json` — a value;
* `Json.Fault` — why a document or a value cannot be used;
* `Json.Slots` — a list that may be read more than once;
* `Json.rounded?` — a value as it is kept without knowing what it is for;
* `Json.text`, `Json.items`, `Json.fold` — a value read as a text, a list, or the fields of
  something.
-/

import EventRules.Dictionary
import EventRules.Numeral.Double
import EventRules.Text.Case
import EventRules.Text.Quoted

set_option relaxedAutoImplicit false
set_option autoImplicit false

namespace EventRules

/-- **A JSON value.** -/
inductive Json where
  | null
  | bool (b : Bool)
  /-- A number as it is written. -/
  | number (n : Numeral.Written)
  | string (s : String)
  | array (items : List Json)
  | object (fields : List (String × Json))
  deriving Inhabited

namespace Json

/-- **Why a document or a value cannot be used.** -/
inductive Fault where
  | ended
  | character (c : Char)
  | depth
  | kind (wanted : String)
  deriving DecidableEq, Repr

def Fault.message : Fault → String
  | .ended => "unexpected end of JSON input"
  | .character c => "invalid character " ++ Text.quote (String.ofList [c])
  | .depth => "exceeded max depth"
  | .kind wanted => "cannot read value as " ++ wanted

def ofInt (n : Int) : Json :=
  .number { negative := n < 0, digits := n.natAbs }

def ofNat (n : Nat) : Json :=
  .number { digits := n }

mutual

/-- **How deeply lists and objects are nested.** -/
def depth : Json → Nat
  | .array items => itemsDepth items + 1
  | .object fields => fieldsDepth fields + 1
  | _ => 0

def itemsDepth : List Json → Nat
  | [] => 0
  | j :: rest => Nat.max (depth j) (itemsDepth rest)

def fieldsDepth : List (String × Json) → Nat
  | [] => 0
  | (_, j) :: rest => Nat.max (depth j) (fieldsDepth rest)

end

/-! ### Reading values -/

/-- The value read as a text; no value leaves the text that was there before. -/
def text (before : String) : Json → Except Fault String
  | .null => .ok before
  | .string s => .ok s
  | _ => .error (.kind "text")

/-- **A list that may be read more than once.**  A later list is read over the items of an earlier
one, and what it does not reach is kept behind it for a list that does. -/
structure Slots (α : Type) where
  items : List α := []
  /-- What earlier lists have left behind them. -/
  spare : List α := []
  deriving DecidableEq, Repr

/-- Reads items one by one, each over the slot at its position, and gives the slots left over. -/
def itemsOver {α : Type} (fresh : α) (read : α → Json → Except Fault α) :
    List α → List Json → Except Fault (Slots α)
  | slots, [] => .ok ⟨[], slots⟩
  | [], j :: js => do
      let a ← read fresh j
      let rest ← itemsOver fresh read [] js
      return { rest with items := a :: rest.items }
  | before :: slots, j :: js => do
      let a ← read before j
      let rest ← itemsOver fresh read slots js
      return { rest with items := a :: rest.items }

/-- The value read as a list; no value and the empty list leave nothing of earlier ones. -/
def items {α : Type} (fresh : α) (read : α → Json → Except Fault α) (before : Slots α) :
    Json → Except Fault (Slots α)
  | .null => .ok {}
  | .array [] => .ok {}
  | .array js => itemsOver fresh read (before.items ++ before.spare) js
  | _ => .error (.kind "list")

/-- The value read as something with fields: `read` takes each field in turn, and no value leaves
everything as it was. -/
def fold {α : Type} (read : α → String → Json → Except Fault α) (before : α) :
    Json → Except Fault α
  | .null => .ok before
  | .object fields => fields.foldlM (fun a f => read a f.1 f.2) before
  | _ => .error (.kind "object")

/-- Is this the name of the field, whatever the letter case? -/
def isField (name written : String) : Bool :=
  Text.sameFolded name written

mutual

/-- **A value whose numbers are of double precision** and whose fields are in byte order, one for
each name; nothing if a number is out of range. -/
def rounded? : Json → Option Json
  | .number n => n.double?.map fun q => .number { Numeral.shortest q with negative := n.negative }
  | .array items => (roundedItems? items).map .array
  | .object fields => (roundedFields? fields).map fun l => .object (Dictionary.ofList l)
  | j => some j

def roundedItems? : List Json → Option (List Json)
  | [] => some []
  | j :: rest => do return (← rounded? j) :: (← roundedItems? rest)

def roundedFields? : List (String × Json) → Option (List (String × Json))
  | [] => some []
  | (name, j) :: rest => do return (name, ← rounded? j) :: (← roundedFields? rest)

end

/-- The value of a field by its exact name; of several the last one. -/
def field? (name : String) : Json → Option Json
  | .object fields => fields.reverse.lookup name
  | _ => none

end Json

end EventRules

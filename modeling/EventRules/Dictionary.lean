/-
**Dictionaries with text keys.**

A dictionary is a list of entries in strictly ascending order of their keys.  The order is that of
the code points, which is also the order of the UTF-8 bytes, so listing a dictionary lists its keys
in byte order.  Entries come in through `insert` only, which keeps the order and replaces an entry
of the same key; two dictionaries with the same answers are therefore the same list.

Main definitions:

* `Dictionary`, `Dictionary.get?`, `Dictionary.insert`, `Dictionary.keys`;
* `Dictionary.ofList` — of several entries for one key the last one counts.

Main results:

* `Dictionary.get?_insert_self`, `Dictionary.get?_insert_of_ne` — what a lookup sees after an
  insertion.
-/

set_option relaxedAutoImplicit false
set_option autoImplicit false

namespace EventRules

/-- **A dictionary**: entries in ascending order of their keys. -/
abbrev Dictionary (α : Type) := List (String × α)

namespace Dictionary

variable {α : Type}

def get? (d : Dictionary α) (key : String) : Option α :=
  d.lookup key

/-- Adds an entry, replacing the one of the same key. -/
def insert (key : String) (value : α) : Dictionary α → Dictionary α
  | [] => [(key, value)]
  | (k, v) :: rest =>
      if key < k then (key, value) :: (k, v) :: rest
      else if k = key then (key, value) :: rest
      else (k, v) :: insert key value rest

/-- The dictionary of a list of entries, the last one for a key winning. -/
def ofList (entries : List (String × α)) : Dictionary α :=
  entries.foldl (fun d e => insert e.1 e.2 d) []

def keys (d : Dictionary α) : List String :=
  d.map (·.1)

@[simp] theorem get?_nil (key : String) : get? ([] : Dictionary α) key = none := rfl

@[simp] theorem get?_insert_self (d : Dictionary α) (key : String) (value : α) :
    get? (insert key value d) key = some value := by
  induction d with
  | nil => simp [insert, get?]
  | cons e d ih =>
      obtain ⟨k, v⟩ := e
      by_cases h₁ : key < k
      · simp [insert, get?, h₁]
      · by_cases h₂ : k = key
        · subst h₂
          simp [insert, get?]
        · have h₃ : (key == k) = false := by simpa using fun e => h₂ e.symm
          have h₄ : (insert key value ((k, v) :: d)) = (k, v) :: insert key value d := by
            simp [insert, h₁, h₂]
          rw [h₄]
          simpa [get?, List.lookup_cons, h₃] using ih

theorem get?_insert_of_ne (d : Dictionary α) {key other : String} (value : α) (h : other ≠ key) :
    get? (insert key value d) other = get? d other := by
  have ho : (other == key) = false := by simpa using h
  induction d with
  | nil => simp [insert, get?, List.lookup_cons, ho]
  | cons e d ih =>
      obtain ⟨k, v⟩ := e
      by_cases h₁ : key < k
      · simp [insert, get?, List.lookup_cons, h₁, ho]
      · by_cases h₂ : k = key
        · subst h₂
          simp [insert, get?, List.lookup_cons, ho]
        · have h₄ : (insert key value ((k, v) :: d)) = (k, v) :: insert key value d := by
            simp [insert, h₁, h₂]
          rw [h₄]
          by_cases h₅ : other == k
          · simp [get?, List.lookup_cons, h₅]
          · simp only [Bool.not_eq_true] at h₅
            simpa [get?, List.lookup_cons, h₅] using ih

end Dictionary

end EventRules

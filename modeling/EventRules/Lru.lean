/-
**Bounded caches.**

A cache holds a limited number of entries, the most recently used one first.  Looking an entry up
and storing one both move it to the front; storing a new entry into a full cache drops the one at
the end, which has not been used for the longest time.

Main definitions:

* `Lru` — a cache with its capacity;
* `Lru.peek?`, `Lru.get`, `Lru.insert`, `Lru.clear` — looking without using, using, storing,
  emptying.

Main results:

* `Lru.length_insert_le` — the capacity is kept.
-/

set_option relaxedAutoImplicit false
set_option autoImplicit false

namespace EventRules

/-- **A bounded cache**, most recently used entries first. -/
structure Lru (α : Type) where
  capacity : Nat
  /-- The entries, most recently used first. -/
  entries : List (String × α) := []

namespace Lru

variable {α : Type}

/-- The value stored under a key, without using it. -/
def peek? (c : Lru α) (key : String) : Option α :=
  c.entries.lookup key

def others (c : Lru α) (key : String) : List (String × α) :=
  c.entries.filter (·.1 != key)

/-- The value stored under a key, which becomes the most recently used one. -/
def get (c : Lru α) (key : String) : Option α × Lru α :=
  match c.peek? key with
  | some value => (some value, { c with entries := (key, value) :: c.others key })
  | none => (none, c)

def insert (c : Lru α) (key : String) (value : α) : Lru α :=
  { c with entries := ((key, value) :: c.others key).take c.capacity }

def clear (c : Lru α) : Lru α :=
  { c with entries := [] }

def length (c : Lru α) : Nat :=
  c.entries.length

theorem length_insert_le (c : Lru α) (key : String) (value : α) :
    (c.insert key value).length ≤ c.capacity := by
  simp only [insert, length, List.length_take]
  exact Nat.min_le_left _ _

@[simp] theorem capacity_insert (c : Lru α) (key : String) (value : α) :
    (c.insert key value).capacity = c.capacity := rfl

@[simp] theorem capacity_get (c : Lru α) (key : String) : (c.get key).2.capacity = c.capacity := by
  unfold get
  split <;> rfl

@[simp] theorem get_fst (c : Lru α) (key : String) : (c.get key).1 = c.peek? key := by
  unfold get
  split <;> simp_all

end Lru

end EventRules

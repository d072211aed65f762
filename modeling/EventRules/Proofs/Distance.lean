/-
**The edit distance is the least number of edits.**

An edit inserts a character into a text, deletes one, or puts another one in its place.  The edit
distance is computed row by row: a row has the distances of the characters read so far to all
beginnings of the other text.  That this gives the least number of edits is shown in two steps.

The rows are those of a plain recursion, `leastEdits`, which compares two texts from their first
characters on.  As a row knows the characters behind it only, what the rows compute is the value of
the recursion for the two texts read backwards.

The recursion gives a number of edits that is enough, and one edit changes its value by at most one;
so no smaller number is.  Edits can be read backwards as well as forwards, and so the direction does
not matter in the end.

Main definitions:

* `Edit`, `EditedIn` — one edit, and a number of edits one after the other;
* `leastEdits` — the recursion behind the rows.

Main results:

* `editDistance_eq` — the rows compute the recursion;
* `Edit.leastEdits_le` — one edit changes the distance by at most one;
* `isLeast_editDistance` — **the edit distance is the least number of edits**;
* `editDistance_of_disjoint` — without common characters it is the length of the longer text.
-/

import Mathlib.Data.List.Lattice
import Mathlib.Order.Bounds.Basic
import EventRules.Suggest

set_option relaxedAutoImplicit false
set_option autoImplicit false

namespace EventRules

/-! ### Edits -/

/-- **One edit of a text.** -/
inductive Edit : List Char → List Char → Prop where
  /-- A character more at the front. -/
  | insert (c : Char) (cs : List Char) : Edit cs (c :: cs)
  /-- The first character less. -/
  | delete (c : Char) (cs : List Char) : Edit (c :: cs) cs
  /-- Another first character. -/
  | substitute (c d : Char) (cs : List Char) : Edit (c :: cs) (d :: cs)
  /-- An edit behind the first character. -/
  | behind (c : Char) {cs ds : List Char} (h : Edit cs ds) : Edit (c :: cs) (c :: ds)

/-- **A number of edits**, one after the other. -/
inductive EditedIn : Nat → List Char → List Char → Prop where
  /-- No edit. -/
  | none (cs : List Char) : EditedIn 0 cs cs
  /-- One edit before the others. -/
  | edit {n : Nat} {cs ds es : List Char} (h : Edit cs ds) (more : EditedIn n ds es) :
      EditedIn (n + 1) cs es

namespace Edit

variable {cs ds : List Char}

theorem append_left (before : List Char) (h : Edit cs ds) : Edit (before ++ cs) (before ++ ds) := by
  induction before with
  | nil => exact h
  | cons c before ih => exact .behind c ih

theorem append_right (h : Edit cs ds) (after : List Char) : Edit (cs ++ after) (ds ++ after) := by
  induction h with
  | insert c cs => exact .insert c _
  | delete c cs => exact .delete c _
  | substitute c d cs => exact .substitute c d _
  | behind c h ih => exact .behind c ih

theorem reverse (h : Edit cs ds) : Edit cs.reverse ds.reverse := by
  induction h with
  | insert c cs =>
      rw [List.reverse_cons]
      simpa using append_left cs.reverse (.insert c [])
  | delete c cs =>
      rw [List.reverse_cons]
      simpa using append_left cs.reverse (.delete c [])
  | substitute c d cs =>
      rw [List.reverse_cons, List.reverse_cons]
      exact append_left cs.reverse (.substitute c d [])
  | behind c h ih =>
      rw [List.reverse_cons, List.reverse_cons]
      exact ih.append_right [c]

end Edit

namespace EditedIn

variable {n : Nat} {cs ds : List Char}

theorem behind (c : Char) (h : EditedIn n cs ds) : EditedIn n (c :: cs) (c :: ds) := by
  induction h with
  | none cs => exact .none _
  | edit h more ih => exact .edit (.behind c h) ih

theorem reverse (h : EditedIn n cs ds) : EditedIn n cs.reverse ds.reverse := by
  induction h with
  | none cs => exact .none _
  | edit h more ih => exact .edit h.reverse ih

theorem reverse_iff : EditedIn n cs.reverse ds.reverse ↔ EditedIn n cs ds := by
  constructor
  · intro h
    simpa using h.reverse
  · exact EditedIn.reverse

/-- Without edits nothing changes. -/
theorem zero_iff : EditedIn 0 cs ds ↔ cs = ds := by
  constructor
  · intro h
    cases h with
    | none cs => rfl
  · rintro rfl
    exact .none cs

/-- A text is written character by character. -/
theorem insertAll (ds : List Char) : EditedIn ds.length [] ds := by
  induction ds with
  | nil => exact .none []
  | cons d ds ih => exact .edit (.insert d []) (ih.behind d)

end EditedIn

/-! ### The recursion -/

/-- **The least number of edits**, by the first characters of the two texts. -/
def leastEdits : List Char → List Char → Nat
  | [], ds => ds.length
  | c :: cs, [] => leastEdits cs [] + 1
  | c :: cs, d :: ds =>
      min (min (leastEdits (c :: cs) ds + 1) (leastEdits cs (d :: ds) + 1))
        (leastEdits cs ds + if c = d then 0 else 1)
  termination_by cs ds => cs.length + ds.length

theorem leastEdits_nil_left (ds : List Char) : leastEdits [] ds = ds.length := by
  rw [leastEdits]

theorem leastEdits_cons_nil (c : Char) (cs : List Char) :
    leastEdits (c :: cs) [] = leastEdits cs [] + 1 := by
  rw [leastEdits]

theorem leastEdits_cons_cons (c d : Char) (cs ds : List Char) :
    leastEdits (c :: cs) (d :: ds) =
      min (min (leastEdits (c :: cs) ds + 1) (leastEdits cs (d :: ds) + 1))
        (leastEdits cs ds + if c = d then 0 else 1) := by
  rw [leastEdits]

theorem leastEdits_nil_right (cs : List Char) : leastEdits cs [] = cs.length := by
  induction cs with
  | nil => exact leastEdits_nil_left []
  | cons c cs ih => rw [leastEdits_cons_nil, ih, List.length_cons]

theorem leastEdits_self (cs : List Char) : leastEdits cs cs = 0 := by
  induction cs with
  | nil => exact leastEdits_nil_left []
  | cons c cs ih => rw [leastEdits_cons_cons, ih, if_pos rfl, Nat.min_zero]

/-- **The recursion gives a number of edits that is enough.** -/
theorem editedIn_leastEdits (cs ds : List Char) : EditedIn (leastEdits cs ds) cs ds := by
  induction cs, ds using leastEdits.induct with
  | case1 ds =>
      rw [leastEdits_nil_left]
      exact .insertAll ds
  | case2 c cs ih =>
      rw [leastEdits_cons_nil]
      exact .edit (.delete c cs) ih
  | case3 c cs d ds hinsert hdelete hboth =>
      have hfirst : EditedIn (leastEdits cs ds + if c = d then 0 else 1) (c :: cs) (d :: ds) := by
        split
        · rename_i hcd
          subst hcd
          exact hboth.behind c
        · exact .edit (.substitute c d cs) (hboth.behind d)
      obtain hmin | hmin | hmin :
          leastEdits (c :: cs) (d :: ds) = leastEdits (c :: cs) ds + 1 ∨
          leastEdits (c :: cs) (d :: ds) = leastEdits cs (d :: ds) + 1 ∨
          leastEdits (c :: cs) (d :: ds) = leastEdits cs ds + if c = d then 0 else 1 := by
        rw [leastEdits_cons_cons]
        omega
      · rw [hmin]
        exact .edit (.insert d (c :: cs)) (hinsert.behind d)
      · rw [hmin]
        exact .edit (.delete c cs) hdelete
      · rw [hmin]
        exact hfirst

/-! ### One edit more or less -/

/-- A character at the front changes the distance by at most one. -/
theorem leastEdits_le_cons (c : Char) (cs es : List Char) :
    leastEdits cs es ≤ leastEdits (c :: cs) es + 1 := by
  induction es with
  | nil =>
      rw [leastEdits_cons_nil]
      omega
  | cons e es ih =>
      have hone : leastEdits cs (e :: es) ≤ leastEdits cs es + 1 := by
        cases cs with
        | nil => simp [leastEdits_nil_left]
        | cons d cs =>
            rw [leastEdits_cons_cons]
            omega
      rw [leastEdits_cons_cons]
      omega

theorem leastEdits_cons_le (c : Char) (cs es : List Char) :
    leastEdits (c :: cs) es ≤ leastEdits cs es + 1 := by
  cases es with
  | nil => rw [leastEdits_cons_nil]
  | cons e es =>
      rw [leastEdits_cons_cons]
      omega

/-- So does another character in the place of the first one. -/
theorem leastEdits_substitute_le (c d : Char) (cs es : List Char) :
    leastEdits (c :: cs) es ≤ leastEdits (d :: cs) es + 1 := by
  induction es with
  | nil =>
      rw [leastEdits_cons_nil, leastEdits_cons_nil]
      exact Nat.le_succ _
  | cons e es ih =>
      rw [leastEdits_cons_cons, leastEdits_cons_cons]
      split <;> split <;> omega

/-- **One edit changes the distance to another text by at most one.** -/
theorem Edit.leastEdits_le {cs ds : List Char} (h : Edit cs ds) (es : List Char) :
    leastEdits cs es ≤ leastEdits ds es + 1 := by
  induction h generalizing es with
  | insert c cs => exact leastEdits_le_cons c cs es
  | delete c cs => exact leastEdits_cons_le c cs es
  | substitute c d cs => exact leastEdits_substitute_le c d cs es
  | @behind c cs ds h ih =>
      -- the first character of both texts meets the characters of the other one in turn
      induction es with
      | nil =>
          rw [leastEdits_cons_nil, leastEdits_cons_nil]
          exact Nat.succ_le_succ (ih [])
      | cons e es ihe =>
          have hboth := ih es
          have hdelete := ih (e :: es)
          rw [leastEdits_cons_cons, leastEdits_cons_cons]
          omega

theorem EditedIn.leastEdits_le {n : Nat} {cs ds : List Char} (h : EditedIn n cs ds) :
    leastEdits cs ds ≤ n := by
  induction h with
  | none cs => rw [leastEdits_self]
  | edit h more ih => exact (h.leastEdits_le _).trans (Nat.succ_le_succ ih)

/-! ### Rows -/

/-- The rest of the row of `cs`: its distances to what has been read, last character first, with
one and more of the coming characters. -/
def rowBehind (cs : List Char) : List Char → List Char → List Nat
  | _, [] => []
  | done, d :: ds => leastEdits cs (d :: done) :: rowBehind cs (d :: done) ds

/-- **The row of a text**: its distances to all beginnings of another one. -/
def rowOf (cs ds : List Char) : List Nat :=
  leastEdits cs [] :: rowBehind cs [] ds

theorem distanceRow_eq (c : Char) (cs done ds : List Char) :
    distanceRow c (leastEdits cs done) (leastEdits (c :: cs) done)
      (ds.zip (rowBehind cs done ds)) = rowBehind (c :: cs) done ds := by
  induction ds generalizing done with
  | nil => rfl
  | cons d ds ih =>
      rw [rowBehind, List.zip_cons_cons, distanceRow, rowBehind, ← leastEdits_cons_cons, ih]

/-- One character more gives the next row. -/
theorem nextRow_eq (c : Char) (cs ds : List Char) :
    nextRow ds (rowOf cs ds) c = rowOf (c :: cs) ds := by
  have hrow := distanceRow_eq c cs [] ds
  rw [leastEdits_cons_nil] at hrow
  rw [rowOf, nextRow, hrow, rowOf, leastEdits_cons_nil]

theorem rowBehind_nil (done ds : List Char) :
    rowBehind [] done ds = List.range' (done.length + 1) ds.length := by
  induction ds generalizing done with
  | nil => rfl
  | cons d ds ih =>
      rw [rowBehind, ih, leastEdits_nil_left, List.length_cons, List.length_cons, List.range'_succ]

theorem rowOf_nil (ds : List Char) : rowOf [] ds = List.range (ds.length + 1) := by
  rw [rowOf, rowBehind_nil, leastEdits_nil_left, List.range_eq_range', List.range'_succ]
  rfl

theorem foldl_nextRow (cs done ds : List Char) :
    cs.foldl (nextRow ds) (rowOf done ds) = rowOf (cs.reverse ++ done) ds := by
  induction cs generalizing done with
  | nil => rfl
  | cons c cs ih => rw [List.foldl_cons, nextRow_eq, ih, List.reverse_cons, List.append_assoc,
      List.singleton_append]

theorem getLast?_row (cs done ds : List Char) :
    (leastEdits cs done :: rowBehind cs done ds).getLast? =
      some (leastEdits cs (ds.reverse ++ done)) := by
  induction ds generalizing done with
  | nil => rfl
  | cons d ds ih =>
      rw [rowBehind, List.getLast?_cons_cons, ih, List.reverse_cons, List.append_assoc,
        List.singleton_append]

/-- **The rows compute the recursion**, for the texts read backwards. -/
theorem editDistance_eq (cs ds : List Char) :
    editDistance cs ds = leastEdits cs.reverse ds.reverse := by
  rw [editDistance, ← rowOf_nil, foldl_nextRow, List.append_nil, rowOf, getLast?_row,
    List.append_nil, Option.getD_some]

/-! ### The distance -/

/-- **The edit distance is the least number of edits.** -/
theorem isLeast_editDistance (cs ds : List Char) :
    IsLeast {n | EditedIn n cs ds} (editDistance cs ds) := by
  rw [editDistance_eq]
  constructor
  · exact EditedIn.reverse_iff.1 (editedIn_leastEdits cs.reverse ds.reverse)
  · intro n h
    exact (EditedIn.reverse h).leastEdits_le

/-- Only equal texts have no distance. -/
theorem editDistance_eq_zero_iff {cs ds : List Char} : editDistance cs ds = 0 ↔ cs = ds := by
  rw [← EditedIn.zero_iff]
  constructor
  · intro h
    exact h ▸ (isLeast_editDistance cs ds).1
  · intro h
    exact Nat.le_zero.1 ((isLeast_editDistance cs ds).2 h)

theorem leastEdits_le_max (cs ds : List Char) : leastEdits cs ds ≤ max cs.length ds.length := by
  induction cs, ds using leastEdits.induct with
  | case1 ds => simp [leastEdits_nil_left]
  | case2 c cs ih => simp [leastEdits_nil_right]
  | case3 c cs d ds _ _ hboth =>
      rw [leastEdits_cons_cons, List.length_cons, List.length_cons]
      split <;> omega

/-- **The distance is at most the length of the longer text.** -/
theorem editDistance_le_max (cs ds : List Char) :
    editDistance cs ds ≤ max cs.length ds.length := by
  simpa [editDistance_eq] using leastEdits_le_max cs.reverse ds.reverse

theorem max_le_leastEdits {cs ds : List Char} (h : cs.Disjoint ds) :
    max cs.length ds.length ≤ leastEdits cs ds := by
  induction cs, ds using leastEdits.induct with
  | case1 ds => simp [leastEdits_nil_left]
  | case2 c cs ih => simp [leastEdits_nil_right]
  | case3 c cs d ds hinsert hdelete hboth =>
      have hcd : c ≠ d := by
        rintro rfl
        exact h List.mem_cons_self List.mem_cons_self
      have hright := List.disjoint_of_disjoint_cons_right h
      have hleft := List.disjoint_of_disjoint_cons_left h
      have hinsert := hinsert hright
      have hdelete := hdelete hleft
      have hboth := hboth (List.disjoint_of_disjoint_cons_right hleft)
      rw [List.length_cons] at hinsert hdelete
      rw [leastEdits_cons_cons, if_neg hcd, List.length_cons, List.length_cons]
      omega

/-- **Without common characters** it is that length. -/
theorem editDistance_of_disjoint {cs ds : List Char} (h : cs.Disjoint ds) :
    editDistance cs ds = max cs.length ds.length := by
  refine le_antisymm (editDistance_le_max cs ds) ?_
  rw [editDistance_eq]
  have hreverse : cs.reverse.Disjoint ds.reverse := by
    intro c hc hd
    exact h (List.mem_reverse.1 hc) (List.mem_reverse.1 hd)
  simpa using max_le_leastEdits hreverse

/-- A change at the end and one inside. -/
example : editDistance "D0000001".toList "D0000010".toList = 2 := by decide +kernel

end EventRules

/-
**How names are rated.**

A name is compared with a search text in one of four ways: it is the text, it starts with it, it
contains it, or it is some edits away from it.  The first three have fixed scores.  In the last one
the number of edits is set against the number of bytes of the longer of the two.  Edits are counted
in characters, of which there are at most as many as bytes; so there are never more edits than
bytes, and the score is between zero and one, and below one, as there is an edit at least.

Main definitions:

* `Rates` — **what a name is rated** for a search text, with the exact score.

Main results:

* `Text.hasStart_iff`, `Text.contains_iff` — beginnings and occurrences;
* `editDistance_le_size` — the edits are at most the bytes;
* `rates_between` — every name is rated as it should be;
* `Rates.unique` — and in one way only;
* `Rates.le_one`, `Rates.eq_one_iff` — the range of the scores.
-/

import Mathlib.Algebra.Order.Field.Rat
import Mathlib.Tactic.Linarith
import Mathlib.Tactic.NormNum
import EventRules.Proofs.Distance
import EventRules.Proofs.Stretches

set_option relaxedAutoImplicit false
set_option autoImplicit false

namespace EventRules

/-! ### Beginnings and occurrences -/

namespace Text

theorem hasStart_iff {start s : String} :
    hasStart start s = true ↔ start.toList <+: s.toList :=
  startsWith_iff

theorem occursIn_iff {part cs : List Char} : occursIn part cs = true ↔ part <:+: cs := by
  induction cs with
  | nil => rw [occursIn, startsWith_iff, List.prefix_nil, List.infix_nil]
  | cons c cs ih => rw [occursIn, Bool.or_eq_true, startsWith_iff, ih, List.infix_cons_iff]

theorem contains_iff {part s : String} :
    contains part s = true ↔ part.toList <:+: s.toList :=
  occursIn_iff

end Text

/-! ### Characters and bytes -/

namespace Utf8

/-- A character has at least one byte. -/
theorem length_le_length_encodeChars (cs : List Char) : cs.length ≤ (encodeChars cs).length := by
  induction cs with
  | nil => exact Nat.le_refl 0
  | cons c cs ih =>
      have hpos := c.utf8Size_pos
      rw [encodeChars, List.flatMap_cons, List.length_append, String.length_utf8EncodeChar,
        List.length_cons]
      rw [encodeChars] at ih
      omega

theorem length_le_size (s : String) : s.toList.length ≤ size s :=
  length_le_length_encodeChars s.toList

end Utf8

/-- **There are at most as many edits as bytes.** -/
theorem editDistance_le_size (s t : String) :
    editDistance s.toList t.toList ≤ max (Utf8.size s) (Utf8.size t) := by
  have hmax := editDistance_le_max s.toList t.toList
  have hs := Utf8.length_le_size s
  have ht := Utf8.length_le_size t
  omega

/-! ### Ratings -/

/-- **What a name is rated** for a search text, both in upper case, with the exact score. -/
inductive Rates (wanted name : String) : Similarity → ℚ → Prop where
  /-- It is the text. -/
  | same (h : name = wanted) : Rates wanted name .same 1
  /-- It starts with the text. -/
  | beginning (hne : name ≠ wanted) (h : wanted.toList <+: name.toList) :
      Rates wanted name .beginning (19 / 20)
  /-- It contains the text. -/
  | inside (hstart : ¬ wanted.toList <+: name.toList) (h : wanted.toList <:+: name.toList) :
      Rates wanted name .inside (9 / 10)
  /-- It is so many edits away from the text. -/
  | edits {distance : Nat} (hnot : ¬ wanted.toList <:+: name.toList)
      (h : IsLeast {n | EditedIn n wanted.toList name.toList} distance) :
      Rates wanted name (.edits distance (max (Utf8.size wanted) (Utf8.size name)))
        (1 - (distance : ℚ) / (max (Utf8.size wanted) (Utf8.size name) : ℕ))

theorem score_edits {distance longest : Nat} (hpos : 0 < longest) (h : distance ≤ longest) :
    (Similarity.edits distance longest).score = 1 - (distance : ℚ) / longest := by
  rw [Similarity.score]
  split
  · rename_i hle
    have hpos' : (longest : ℚ) ≠ 0 := Nat.cast_ne_zero.2 hpos.ne'
    rw [Nat.le_antisymm h hle, div_self hpos', sub_self]
  · rfl

/-- **Every name is rated as it should be.** -/
theorem rates_between (wanted name : String) :
    Rates wanted name (Similarity.between wanted name) (Similarity.between wanted name).score := by
  unfold Similarity.between
  split
  · rename_i hsame
    exact .same hsame.symm
  · rename_i hsame
    split
    · rename_i hstart
      exact .beginning (Ne.symm hsame) (Text.hasStart_iff.1 hstart)
    · rename_i hstart
      rw [Text.hasStart_iff] at hstart
      split
      · rename_i hinside
        exact .inside hstart (Text.contains_iff.1 hinside)
      · rename_i hinside
        rw [Text.contains_iff] at hinside
        -- the text is not empty, as it would occur in the name
        have hpos : 0 < max (Utf8.size wanted) (Utf8.size name) := by
          have hne : wanted.toList ≠ [] := by
            intro hnil
            exact hinside (hnil ▸ List.nil_infix)
          have hlength := List.length_pos_of_ne_nil hne
          have hsize := Utf8.length_le_size wanted
          omega
        rw [score_edits hpos (editDistance_le_size wanted name)]
        exact .edits hinside (isLeast_editDistance _ _)

namespace Rates

variable {wanted name : String} {s s' : Similarity} {score score' : ℚ}

/-- **A name is rated in one way only.** -/
theorem unique (h : Rates wanted name s score) (h' : Rates wanted name s' score') :
    s = s' ∧ score = score' := by
  cases h with
  | same h =>
      cases h' with
      | same _ => exact ⟨rfl, rfl⟩
      | beginning hne _ => exact absurd h hne
      | inside hstart _ => exact absurd (h ▸ List.prefix_rfl) hstart
      | edits hnot _ => exact absurd (h ▸ List.infix_rfl) hnot
  | beginning hne h =>
      cases h' with
      | same h' => exact absurd h' hne
      | beginning _ _ => exact ⟨rfl, rfl⟩
      | inside hstart _ => exact absurd h hstart
      | edits hnot _ => exact absurd h.isInfix hnot
  | inside hstart h =>
      cases h' with
      | same h' => exact absurd (h' ▸ List.prefix_rfl) hstart
      | beginning _ h' => exact absurd h' hstart
      | inside _ _ => exact ⟨rfl, rfl⟩
      | edits hnot _ => exact absurd h hnot
  | edits hnot h =>
      cases h' with
      | same h' => exact absurd (h' ▸ List.infix_rfl) hnot
      | beginning _ h' => exact absurd h'.isInfix hnot
      | inside _ h' => exact absurd h' hnot
      | edits _ h' =>
          obtain rfl := h.unique h'
          exact ⟨rfl, rfl⟩

/-- The only rating is the one that is computed. -/
theorem eq_between (h : Rates wanted name s score) :
    s = Similarity.between wanted name ∧ score = (Similarity.between wanted name).score :=
  h.unique (rates_between wanted name)

/-- A name that does not contain the text is at least one edit away, and at most as many as there
are bytes. -/
theorem bounds_of_not_inside {distance : Nat} (hnot : ¬ wanted.toList <:+: name.toList)
    (h : IsLeast {n | EditedIn n wanted.toList name.toList} distance) :
    0 < distance ∧ distance ≤ max (Utf8.size wanted) (Utf8.size name) := by
  obtain rfl := h.unique (isLeast_editDistance _ _)
  refine ⟨Nat.pos_of_ne_zero fun hzero => ?_, editDistance_le_size wanted name⟩
  exact hnot (editDistance_eq_zero_iff.1 hzero ▸ List.infix_rfl)

theorem bounds_of_edits {distance longest : Nat} (h : Rates wanted name s score)
    (hs : s = .edits distance longest) :
    0 < distance ∧ longest = max (Utf8.size wanted) (Utf8.size name) := by
  cases h with
  | edits hnot h =>
      cases hs
      exact ⟨(bounds_of_not_inside hnot h).1, rfl⟩
  | _ => cases hs

theorem le_one (h : Rates wanted name s score) : score ≤ 1 := by
  cases h with
  | same _ => norm_num
  | beginning _ _ => norm_num
  | inside _ _ => norm_num
  | edits _ _ =>
      rw [sub_le_self_iff]
      exact div_nonneg (Nat.cast_nonneg _) (Nat.cast_nonneg _)

/-- **Only the text itself scores one.** -/
theorem eq_one_iff (h : Rates wanted name s score) : score = 1 ↔ name = wanted := by
  cases h with
  | same h => simp [h]
  | beginning hne _ => exact ⟨fun h => absurd h (by norm_num), fun h => absurd h hne⟩
  | inside hstart _ =>
      refine ⟨fun h => absurd h (by norm_num), fun h => absurd ?_ hstart⟩
      exact h ▸ List.prefix_rfl
  | edits hnot h =>
      obtain ⟨hpos, hle⟩ := bounds_of_not_inside hnot h
      have hratio : 0 < (_ : ℚ) / (max (Utf8.size wanted) (Utf8.size name) : ℕ) :=
        div_pos (Nat.cast_pos.2 hpos) (Nat.cast_pos.2 (hpos.trans_le hle))
      refine ⟨fun h => ?_, fun h => absurd (h ▸ List.infix_rfl) hnot⟩
      linarith

end Rates

end EventRules

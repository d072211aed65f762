/-
**Restoring hidden words.**

Restoring goes over a text from left to right and replaces each marker by the word.  It may go over
the two parts of a text one by one if the cut is not inside a word, since a marker is all word
characters.  It leaves no marker behind: what it writes is in lower case, and the marker is not, so
an occurrence in the result would have been there before.

Protecting finds nothing to do in a text that it has protected.  A comparator in the protected text
has no underscore in it, so it was in the given text as well, and its word is not hidden; but every
word that a comparator uses is.

Main results:

* `Criteria.restoreChars_append` — restoring piece by piece;
* `Criteria.restoreChars_marker_free`, `Criteria.restoreChars_restoreChars` — **no marker is left**;
* `Criteria.not_used_protectChars`, `Criteria.protectChars_protectChars` — **no comparator is left**.
-/

import EventRules.Proofs.Operators

set_option relaxedAutoImplicit false
set_option autoImplicit false

namespace EventRules.Criteria

open EventRules.Text (foldChar)
open EventRules.Phrase (endsInGap)

/-! ### From left to right -/

/-- A text is empty, begins with a marker, or begins with a character that stays. -/
@[elab_as_elim] theorem marker_induction {motive : List Char → Prop} (cs : List Char)
    (nil : motive []) (marker : ∀ cs, motive cs → motive (marker ++ cs))
    (keep : ∀ c cs, ¬ Criteria.marker <+: c :: cs → motive cs → motive (c :: cs)) : motive cs := by
  induction hn : cs.length using Nat.strong_induction_on generalizing cs with
  | _ n ih =>
  subst hn
  cases cs with
  | nil => exact nil
  | cons c cs =>
      by_cases hmarker : Criteria.marker <+: c :: cs
      · obtain ⟨rest, hrest⟩ := hmarker
        have hlength := congrArg List.length hrest
        rw [marker_eq] at hlength
        simp only [List.length_append, List.length_cons] at hlength
        rw [← hrest]
        exact marker rest (ih rest.length (by simp only [List.length_cons]; omega) rest rfl)
      · exact keep c cs hmarker (ih cs.length (by simp) cs rfl)

@[simp] theorem restoreChars_nil : restoreChars [] = [] := rfl

/-- No marker lies across a place that is not inside a word. -/
theorem not_marker_append {x y : List Char} (h : ¬ marker <+: x) (hne : x ≠ [])
    (hxy : endsInWord x = false ∨ startsInWord y = false) : ¬ marker <+: x ++ y := by
  rintro ⟨t, ht⟩
  rcases List.append_eq_append_iff.1 ht with ⟨s, hs, -⟩ | ⟨s, hs, hy⟩
  · exact h ⟨s, hs.symm⟩
  · have hword := isWordChar_of_mem_marker
    rw [hs, List.forall_mem_append] at hword
    have hend : endsInWord x = true := by
      rw [endsInWord, List.getLast?_eq_some_getLast hne]
      exact hword.1 _ (List.getLast_mem hne)
    cases s with
    | nil => exact h (by simp [hs])
    | cons c s =>
        have hstart : startsInWord y = true := by
          rw [hy]
          exact hword.2 c (by simp)
        rw [hend, hstart] at hxy
        simp at hxy

/-- **Restoring piece by piece**, the pieces being cut where no word is. -/
theorem restoreChars_append {x y : List Char}
    (h : endsInWord x = false ∨ startsInWord y = false) :
    restoreChars (x ++ y) = restoreChars x ++ restoreChars y := by
  induction x using marker_induction with
  | nil => rfl
  | marker x ih =>
      have hx := ih (h.imp_left endsInWord_of_append)
      rw [List.append_assoc, restoreChars_marker, restoreChars_marker, hx, List.append_assoc]
  | keep c x hmarker ih =>
      have hx := ih (h.imp_left fun hend => endsInWord_of_append (x := [c]) hend)
      have happend := not_marker_append hmarker (by simp) h
      rw [List.cons_append] at happend ⊢
      rw [restoreChars_cons hmarker, restoreChars_cons happend, hx, List.cons_append]

/-! ### No marker is left -/

/-- A beginning of a restored text that has no part of the word was there before. -/
theorem prefix_of_prefix_restoreChars {x cs : List Char} (hx : 'o' ∉ x)
    (h : x <+: restoreChars cs) : x <+: cs := by
  induction cs using marker_induction generalizing x with
  | nil => exact h
  | marker cs =>
      cases x with
      | nil => exact List.nil_prefix
      | cons c x =>
          rw [restoreChars_marker, orWord, List.cons_append, List.cons_prefix_cons] at h
          exact absurd (by simp [h.1]) hx
  | keep c cs hmarker ih =>
      cases x with
      | nil => exact List.nil_prefix
      | cons d x =>
          rw [restoreChars_cons hmarker, List.cons_prefix_cons] at h
          exact List.cons_prefix_cons.2 ⟨h.1, ih (fun hmem => hx (List.mem_cons_of_mem d hmem)) h.2⟩

/-- **No marker is left.** -/
theorem restoreChars_marker_free (cs : List Char) : ¬ marker <:+: restoreChars cs := by
  induction cs using marker_induction with
  | nil => decide +kernel
  | marker cs ih =>
      rw [restoreChars_marker, orWord, List.cons_append, List.cons_append, List.nil_append]
      intro hin
      rcases List.infix_cons_iff.1 hin with hfront | hin
      · simp [marker_eq, List.cons_prefix_cons] at hfront
      · rcases List.infix_cons_iff.1 hin with hfront | hin
        · simp [marker_eq, List.cons_prefix_cons] at hfront
        · exact ih hin
  | keep c cs hmarker ih =>
      rw [restoreChars_cons hmarker]
      intro hin
      rcases List.infix_cons_iff.1 hin with hfront | hin
      · have hall : marker <+: restoreChars (c :: cs) := by rwa [restoreChars_cons hmarker]
        exact hmarker (prefix_of_prefix_restoreChars (by decide +kernel) hall)
      · exact ih hin

theorem restoreChars_of_marker_free {cs : List Char} (h : ¬ marker <:+: cs) :
    restoreChars cs = cs := by
  induction cs with
  | nil => rfl
  | cons c cs ih =>
      rw [List.infix_cons_iff, not_or] at h
      rw [restoreChars_cons h.1, ih h.2]

theorem restoreChars_restoreChars (cs : List Char) :
    restoreChars (restoreChars cs) = restoreChars cs :=
  restoreChars_of_marker_free (restoreChars_marker_free cs)

/-! ### No comparator is left -/

namespace Hides

variable {ks : List Comparator} {pre post u v v₁ v₂ : List Char}

/-- Where no word is used, nothing is hidden. -/
theorem eq_of_unused (h : Hides ks post pre u v)
    (hunused : ∀ p w q, u = p ++ (w ++ q) → ¬ Used ks (pre ++ p) w (q ++ post)) : v = u := by
  induction h with
  | nil => rfl
  | @keep pre u v c hc h ih =>
      have hrest : v = u := by
        refine ih fun p w q e => ?_
        simpa using hunused (c :: p) w q (by simp [e])
      rw [hrest]
  | @hide pre w u v hw h ih => exact absurd (by simpa using hw) (hunused [] w u rfl)

/-- What is shown may be divided where no word is. -/
theorem cut_shown (h : Hides ks post pre u (v₁ ++ v₂)) (hv : endsInWord v₁ = false) :
    ∃ u₁ u₂, u = u₁ ++ u₂ ∧ Hides ks (u₂ ++ post) pre u₁ v₁ ∧
      Hides ks post (pre ++ u₁) u₂ v₂ := by
  generalize hvv : v₁ ++ v₂ = v at h
  induction h generalizing v₁ with
  | nil =>
      obtain ⟨rfl, rfl⟩ := List.append_eq_nil_iff.1 hvv
      exact ⟨[], [], rfl, .nil, .nil⟩
  | @keep pre u v c hc h ih =>
      rcases List.append_eq_cons_iff.1 hvv with ⟨rfl, rfl⟩ | ⟨v₁, rfl, rfl⟩
      · exact ⟨[], c :: u, rfl, .nil, by simpa using .keep hc h⟩
      · obtain ⟨u₁, u₂, rfl, h₁, h₂⟩ := ih (endsInWord_of_append (x := [c]) hv) rfl
        exact ⟨c :: u₁, u₂, rfl, .keep (by simpa using hc) h₁, by simpa using h₂⟩
  | @hide pre w u v hw h ih =>
      cases v₁ with
      | nil =>
          obtain rfl : v₂ = marker ++ v := hvv
          exact ⟨[], w ++ u, rfl, .nil, by simpa using .hide hw h⟩
      | cons c x =>
          -- The marker is all word characters, so the division is behind it.
          obtain ⟨t, ht⟩ : marker <+: c :: x := by
            by_contra hmarker
            exact not_marker_append hmarker (by simp) (.inl hv) ⟨v, hvv.symm⟩
          rw [← ht] at hv hvv ⊢
          rw [List.append_assoc] at hvv
          obtain ⟨u₁, u₂, rfl, h₁, h₂⟩ :=
            ih (endsInWord_of_append hv) (List.append_cancel_left hvv)
          refine ⟨w ++ u₁, u₂, by simp, .hide (by simpa using hw) h₁, by simpa using h₂⟩

end Hides

/-- **No comparator is left** in a protected text. -/
theorem not_used_protectChars {cs p w q : List Char} (e : protectChars cs = p ++ (w ++ q)) :
    ¬ Used comparators p w q := by
  intro hw
  have hgap := not_endsInWord_of_gap (hw.gaps isRegular_of_mem).1
  obtain ⟨u₁, u₂, -, h₁, h₂⟩ := (e ▸ hides_protectChars cs).cut_shown hgap
  obtain ⟨u, rfl, hkept, h⟩ := h₂.shown_front hw.not_mem
  rw [List.nil_append] at hkept h
  rw [List.append_assoc] at h₁
  -- The word was there, with the same comparator around it, and is not hidden.
  have hw' : Used comparators u₁ w u := by
    obtain ⟨k, hk, huses⟩ := hw
    exact ⟨k, hk, (h₁.uses_iff isRegular_of_mem (isRegular_of_mem k hk) h).1 huses⟩
  obtain ⟨c, d, rfl, -, -⟩ := hw'.word_eq
  rcases hkept.cons_cases with ⟨-, -, hc, -⟩ | ⟨w', u', v', -, e, -, -⟩
  · exact hc [c, d] u (by simp) hw'
  · exact hw'.not_mem (by rw [e, marker_eq]; simp)

/-- **Protecting twice is protecting once.** -/
theorem protectChars_protectChars (cs : List Char) :
    protectChars (protectChars cs) = protectChars cs :=
  (hides_protectChars (protectChars cs)).eq_of_unused fun p w q e =>
    by simpa using not_used_protectChars e

end EventRules.Criteria

/-
**Finding a phrase.**

A phrase is looked for from left to right, and its first occurrence is taken.  The phrases of
comparisons begin with the word *is*, and have no other *i* in them.  So nothing that ends in such a
phrase can contain the beginning of another occurrence of it but as a whole, which is what makes it
possible to write the phrase into a text and to find it there again.

But for white space and letter case, all ways to write a phrase are the same text.

Main definitions:

* `Text.plain` — a text without white space, up to letter case;
* `Phrase.FirstMatch` — **the first occurrence of a phrase**.

Main results:

* `Phrase.split?_eq_none`, `Phrase.FirstMatch.split?_eq` — what is found is the first occurrence;
* `Comparison.plain_of_matches` — the ways to write a comparison;
* `Comparison.firstMatch_append` — **a phrase that is written into a text is found there**.
-/

import EventRules.Proofs.Pieces
import EventRules.Rule.Comparison

set_option relaxedAutoImplicit false
set_option autoImplicit false

namespace EventRules

/-! ### White space and letter case -/

namespace Text

/-- **A text without white space, up to letter case.** -/
def plain (cs : List Char) : List Char :=
  (dropSpace cs).map foldChar

@[simp] theorem plain_nil : plain [] = [] := rfl

@[simp] theorem plain_append (x y : List Char) : plain (x ++ y) = plain x ++ plain y := by
  simp [plain]

theorem plain_cons_of_space {c : Char} (hc : isSpace c = true) (cs : List Char) :
    plain (c :: cs) = plain cs := by
  simp [plain, dropSpace, hc]

theorem plain_cons {c : Char} (hc : isSpace c = false) (cs : List Char) :
    plain (c :: cs) = foldChar c :: plain cs := by
  simp [plain, dropSpace, hc]

@[simp] theorem plain_trimChars (cs : List Char) : plain (trimChars cs) = plain cs := by
  rw [plain, dropSpace_trimChars, plain]

/-- What is no white space in some letter case is none. -/
theorem isSpace_of_foldChar {a c : Char} (ha : isSpace a = false) (hc : foldChar c = a) :
    isSpace c = false := by
  by_contra h
  rw [Bool.not_eq_false] at h
  rw [← hc, foldChar_of_isSpace h, h] at ha
  cases ha

end Text

/-! ### First occurrences -/

namespace Phrase

open EventRules.Text (foldChar isSpace plain)

namespace Fits

variable {q : List (Option Char)} {x : List Char}

/-- A letter that is not in the list is not in the text, in whatever case. -/
theorem foldChar_ne {a : Char} (h : Fits q x) (ha : isGapChar a = false) (hq : some a ∉ q) :
    ∀ c ∈ x, foldChar c ≠ a := by
  induction h with
  | nil => simp
  | @letter b c q x hc _ ih =>
      rw [List.mem_cons, not_or] at hq
      rw [List.forall_mem_cons]
      refine ⟨fun he => hq.1 ?_, ih hq.2⟩
      rw [← he, hc]
  | last hc _ ih =>
      rw [List.mem_cons, not_or] at hq
      rw [List.forall_mem_cons]
      exact ⟨fun he => by simp [isGapChar_of_foldChar ha he] at hc, ih hq.2⟩
  | more hc _ ih =>
      rw [List.forall_mem_cons]
      exact ⟨fun he => by simp [isGapChar_of_foldChar ha he] at hc, ih hq⟩

/-- A text that follows a list with a letter at its end does not end in blank space. -/
theorem not_endsInGap (h : Fits q x) (hs : isSpaced q = true) (hq : q.getLast? ≠ some none) :
    endsInGap x = false := by
  induction h with
  | nil => rfl
  | @letter a c q x hc h ih =>
      obtain ⟨ha, hs⟩ := isSpaced_letter.1 hs
      cases x with
      | nil => simpa [endsInGap] using isGapChar_of_foldChar ha hc
      | cons d x =>
          have hlast : q.getLast? ≠ some none := fun he => hq (by simp [List.getLast?_cons, he])
          simpa [endsInGap, List.getLast?_cons_cons] using ih hs hlast
  | @last c q x hc h ih =>
      cases h with
      | nil => exact absurd rfl hq
      | letter hd h =>
          rw [List.getLast?_cons_cons] at hq
          simpa [endsInGap, List.getLast?_cons_cons] using ih (isSpaced_of_gap hs) hq
      | last | more => simp [isSpaced] at hs
  | @more c q x hc h ih =>
      cases h with
      | last | more => simpa [endsInGap, List.getLast?_cons_cons] using ih hs hq

/-- But for white space and letter case, the text is the letters. -/
theorem plain_eq (h : Fits q x) (hq : ∀ a, some a ∈ q → isSpace a = false) :
    plain x = q.filterMap id := by
  have hgap {c : Char} (hc : isGapChar c = true) : isSpace c = true := by
    simp only [isGapChar, Bool.or_eq_true, beq_iff_eq] at hc
    rcases hc with (((rfl | rfl) | rfl) | rfl) | rfl <;> rfl
  induction h with
  | nil => rfl
  | letter hc _ ih =>
      have hspace := Text.isSpace_of_foldChar (hq _ (by simp)) hc
      rw [Text.plain_cons hspace, ih fun a ha => hq a (List.mem_cons_of_mem _ ha), hc]
      rfl
  | last hc _ ih =>
      rw [Text.plain_cons_of_space (hgap hc), ih fun a ha => hq a (List.mem_cons_of_mem _ ha)]
      rfl
  | more hc _ ih => rw [Text.plain_cons_of_space (hgap hc), ih hq]

end Fits

/-- **The first occurrence of a phrase** in a text. -/
structure FirstMatch (p : Phrase) (cs before m after : List Char) : Prop where
  text_eq : cs = before ++ (m ++ after)
  isMatch : Matches p m
  first : ∀ b x a, cs = b ++ (x ++ a) → Matches p x → before.length ≤ b.length

variable {p : Phrase} {cs before m after : List Char}

theorem exists_firstMatch {b x a : List Char} (e : cs = b ++ (x ++ a)) (hx : Matches p x) :
    ∃ before m after, FirstMatch p cs before m after := by
  induction hn : b.length using Nat.strong_induction_on generalizing b x a with
  | _ n ih =>
  subst hn
  by_cases hfirst : ∀ b' x' a', cs = b' ++ (x' ++ a') → Matches p x' → b.length ≤ b'.length
  · exact ⟨b, x, a, e, hx, hfirst⟩
  · push Not at hfirst
    obtain ⟨b', x', a', e', hx', hshort⟩ := hfirst
    exact ih b'.length hshort e' hx' rfl

theorem split?_eq_none (h : ∀ b x a, cs = b ++ (x ++ a) → ¬ Matches p x) :
    p.split? cs = none := by
  induction cs with
  | nil =>
      rw [split?, Option.map_eq_none_iff]
      by_contra hsome
      obtain ⟨n, hn⟩ := Option.ne_none_iff_exists'.1 hsome
      obtain ⟨x, y, e, hx, -⟩ := matches_of_length? hn
      exact h [] x y e hx
  | cons c cs ih =>
      have hrest := ih fun b x a e => h (c :: b) x a (by rw [e]; rfl)
      rw [split?, hrest]
      split
      · next n hn =>
          obtain ⟨x, y, e, hx, -⟩ := matches_of_length? hn
          exact absurd hx (h [] x y e)
      · rfl

/-- **What is found is the first occurrence.** -/
theorem FirstMatch.split?_eq (h : FirstMatch p cs before m after)
    (hs : isSpaced p.symbols = true) (hlast : p.symbols.getLast? ≠ some none) :
    p.split? cs = some (before, after) := by
  induction before generalizing cs with
  | nil =>
      have hlength : length? p cs = some m.length := by
        rw [h.text_eq, List.nil_append]
        exact h.isMatch.length?_append hs fun he => absurd he hlast
      have htext : cs = m ++ after := h.text_eq
      cases cs with
      | nil =>
          obtain ⟨-, rfl⟩ := List.append_eq_nil_iff.1 htext.symm
          rw [split?, hlength, Option.map_some]
      | cons c cs =>
          rw [split?, hlength]
          simp [htext]
  | cons c before ih =>
      obtain ⟨rest, rfl⟩ : ∃ rest, cs = c :: rest := ⟨_, h.text_eq⟩
      have hnone : length? p (c :: rest) = none := by
        by_contra hsome
        obtain ⟨n, hn⟩ := Option.ne_none_iff_exists'.1 hsome
        obtain ⟨x, y, e, hx, -⟩ := matches_of_length? hn
        have hlength := h.first [] x y e hx
        simp at hlength
      have hrest : FirstMatch p rest before m after := by
        refine ⟨(List.cons.inj h.text_eq).2, h.isMatch, fun b x a e hx => ?_⟩
        simpa using h.first (c :: b) x a (by rw [e]; rfl) hx
      rw [split?, hnone, ih hrest]
      rfl

/-- What is found divides the text. -/
theorem parts_of_split? (h : p.split? cs = some (before, after)) :
    ∃ m, cs = before ++ (m ++ after) := by
  induction cs generalizing before with
  | nil =>
      obtain ⟨-, -, he⟩ := Option.map_eq_some_iff.1 h
      obtain ⟨rfl, rfl⟩ := Prod.mk.inj he
      exact ⟨[], rfl⟩
  | cons c cs ih =>
      rw [split?] at h
      split at h
      · next n _ =>
          obtain ⟨rfl, rfl⟩ := Prod.mk.inj (Option.some.inj h)
          exact ⟨(c :: cs).take n, (List.take_append_drop n (c :: cs)).symm⟩
      · obtain ⟨⟨front, rest⟩, hr, he⟩ := Option.map_eq_some_iff.1 h
        obtain ⟨rfl, rfl⟩ := Prod.mk.inj he
        obtain ⟨m, rfl⟩ := ih hr
        exact ⟨m, rfl⟩

/-- No occurrence ends before the first one begins. -/
theorem FirstMatch.not_infix_before (h : FirstMatch p cs before m after) {x : List Char}
    (hx : Matches p x) (hne : x ≠ []) : ¬ x <:+: before := by
  rintro ⟨b, a, hbefore⟩
  have hfirst := h.first b x (a ++ (m ++ after)) (by rw [h.text_eq, ← hbefore]; simp) hx
  have hpos := List.length_pos_iff.2 hne
  rw [← hbefore] at hfirst
  simp only [List.length_append] at hfirst
  omega

end Phrase

/-! ### Comparisons -/

namespace Comparison

open EventRules.Phrase (FirstMatch Matches endsInGap isGapChar isSpaced)
open EventRules.Text (foldChar isSpace plain)

variable {c : Comparison} {x x' : List Char}

theorem spaced (c : Comparison) : isSpaced c.pattern.symbols = true := by
  cases c <;> decide +kernel

theorem ends_in_letter (c : Comparison) : c.pattern.symbols.getLast? ≠ some none := by
  cases c <;> decide +kernel

/-- The phrase of a comparison is a way to write it. -/
theorem matches_phrase (c : Comparison) : Matches c.pattern c.phrase.toList := by
  have hlength : c.pattern.length? c.phrase.toList = some c.phrase.toList.length := by
    cases c <;> decide +kernel
  obtain ⟨x, y, e, hx, hx'⟩ := Phrase.matches_of_length? hlength
  obtain rfl : y = [] := by simpa [e] using hx'
  rwa [e, List.append_nil]

theorem not_endsInGap (h : Matches c.pattern x) : endsInGap x = false :=
  h.fits.not_endsInGap c.spaced c.ends_in_letter

/-- A comparison begins with *is* and has no other *i*. -/
theorem begins (h : Matches c.pattern x) :
    ∃ i s y, x = i :: s :: y ∧ foldChar i = 'i' ∧ foldChar s = 's' ∧
      ∀ d ∈ s :: y, foldChar d ≠ 'i' := by
  obtain ⟨q, hq, hi⟩ :
      ∃ q, c.pattern.symbols = some 'i' :: some 's' :: q ∧ some 'i' ∉ some 's' :: q := by
    refine ⟨c.pattern.symbols.drop 2, ?_⟩
    cases c <;> decide +kernel
  have hx := h.fits
  rw [hq] at hx
  cases hx with
  | letter hfirst hx =>
      cases hx with
      | letter hsecond hx =>
          exact ⟨_, _, _, rfl, hfirst, hsecond, (Phrase.Fits.letter hsecond hx).foldChar_ne rfl hi⟩

theorem ne_nil (h : Matches c.pattern x) : x ≠ [] := by
  obtain ⟨i, s, y, rfl, -⟩ := begins h
  simp

/-- But for white space and letter case, a comparison is written in one way. -/
theorem plain_of_matches (h : Matches c.pattern x) (h' : Matches c.pattern x') :
    plain x = plain x' := by
  have hletters : ∀ a, some a ∈ c.pattern.symbols → isSpace a = false := by
    have hall : ∀ s ∈ c.pattern.symbols, s.all (!isSpace ·) = true := by
      cases c <;> decide +kernel
    intro a ha
    simpa using hall _ ha
  rw [h.fits.plain_eq hletters, h'.fits.plain_eq hletters]

/-- An occurrence that begins before a phrase ends before it. -/
theorem infix_of_append {pre post b a : List Char} (hx : Matches c.pattern x)
    (hx' : Matches c.pattern x') (e : pre ++ (x ++ post) = b ++ (x' ++ a))
    (hb : b.length < pre.length) : ∃ t, pre = b ++ (x' ++ t) := by
  rcases List.append_eq_append_iff.1 e with ⟨t, rfl, -⟩ | ⟨t, rfl, ht⟩
  · rw [List.length_append] at hb
    omega
  rcases List.append_eq_append_iff.1 ht with ⟨s, rfl, -⟩ | ⟨s, rfl, hs⟩
  · exact ⟨s, by simp⟩
  · -- The occurrence would have the first letter of the phrase in its middle.
    obtain ⟨i, y, z, rfl, hi, -, -⟩ := begins hx
    cases s with
    | nil => exact ⟨[], by simp⟩
    | cons d s =>
        obtain ⟨rfl, -⟩ := List.cons.inj hs
        obtain ⟨i', s', y', e', -, -, hrest⟩ := begins hx'
        cases t with
        | nil => simp at hb
        | cons d' t =>
            obtain ⟨rfl, ht'⟩ := List.cons.inj e'
            exact absurd hi (hrest i (by rw [← ht']; simp))

/-- **A phrase that is written into a text is found there**, if it is not in what stands before. -/
theorem firstMatch_append {pre : List Char} (h : ∀ x, Matches c.pattern x → ¬ x <:+: pre)
    (post : List Char) :
    FirstMatch c.pattern (pre ++ (c.phrase.toList ++ post)) pre c.phrase.toList post := by
  refine ⟨rfl, c.matches_phrase, fun b x a e hx => ?_⟩
  by_contra hshort
  obtain ⟨t, ht⟩ := infix_of_append c.matches_phrase hx e (Nat.lt_of_not_le hshort)
  exact h x hx ⟨b, t, by simp [ht]⟩

end Comparison

end EventRules

/-
**Where a phrase stands in a text.**

A phrase is found in any letter case and with any amount of blank space between its words.  What it
takes at the front of a text is nevertheless determined: a gap ends at the first letter of the next
word, which is never blank.  So measuring a phrase finds every way to write it, and two phrases that
share a piece of text share the letters there.  A phrase in which no end is also a beginning cannot
overlap itself.

Main definitions:

* `Phrase.Matches` — **the ways to write a phrase**;
* `Phrase.symbols`, `Phrase.Fits` — a phrase letter by letter, and the texts that follow it;
* `Phrase.isSpaced` — gaps are single, and letters are not blank.

Main results:

* `Phrase.matches_of_length?`, `Phrase.Matches.length?_append` — measuring a phrase is sound, and
  finds every way to write it;
* `Phrase.Fits.overlap` — texts that share a beginning follow the same letters;
* `Phrase.Fits.drop` — the rest of such a text follows the rest of the letters.
-/

import EventRules.Rule.Phrase
import Mathlib.Data.List.Infix
import Mathlib.Data.List.TakeWhile

set_option relaxedAutoImplicit false
set_option autoImplicit false

namespace EventRules.Phrase

open EventRules.Text (foldChar)

/-! ### Ways to write a phrase -/

/-- **The ways to write a phrase**: its words in any letter case, and blank space for its gaps. -/
inductive Matches : Phrase → List Char → Prop
  | nil : Matches [] []
  | word {letters w x : List Char} {p : Phrase} (hw : w.map foldChar = letters)
      (h : Matches p x) : Matches (.word letters :: p) (w ++ x)
  | gap {g x : List Char} {p : Phrase} (hne : g ≠ []) (hg : ∀ c ∈ g, isGapChar c = true)
      (h : Matches p x) : Matches (.gap :: p) (g ++ x)

/-- A phrase letter by letter; `none` is a gap. -/
def symbols : Phrase → List (Option Char)
  | [] => []
  | .word letters :: p => letters.map some ++ symbols p
  | .gap :: p => none :: symbols p

/-- The texts that follow a list of letters and gaps. -/
inductive Fits : List (Option Char) → List Char → Prop
  | nil : Fits [] []
  | letter {a c : Char} {q : List (Option Char)} {x : List Char} (hc : foldChar c = a)
      (h : Fits q x) : Fits (some a :: q) (c :: x)
  | last {c : Char} {q : List (Option Char)} {x : List Char} (hc : isGapChar c = true)
      (h : Fits q x) : Fits (none :: q) (c :: x)
  | more {c : Char} {q : List (Option Char)} {x : List Char} (hc : isGapChar c = true)
      (h : Fits (none :: q) x) : Fits (none :: q) (c :: x)

/-- No letter is blank, and no gap follows a gap. -/
def isSpaced : List (Option Char) → Bool
  | [] => true
  | some a :: q => !isGapChar a && isSpaced q
  | none :: none :: _ => false
  | none :: q => isSpaced q

/-- Does a text start with blank space? -/
def startsInGap (cs : List Char) : Bool :=
  cs.head?.any isGapChar

/-- Does a text end with blank space? -/
def endsInGap (cs : List Char) : Bool :=
  cs.getLast?.any isGapChar

/-! ### Letters and blank space -/

/-- Blank space has no letter case. -/
theorem foldChar_of_isGapChar {c : Char} (h : isGapChar c = true) : foldChar c = c := by
  simp only [isGapChar, Bool.or_eq_true, beq_iff_eq] at h
  rcases h with (((rfl | rfl) | rfl) | rfl) | rfl <;> rfl

/-- What is a letter in any case is not blank. -/
theorem isGapChar_of_foldChar {a c : Char} (ha : isGapChar a = false) (hc : foldChar c = a) :
    isGapChar c = false := by
  by_contra h
  rw [Bool.not_eq_false] at h
  rw [foldChar_of_isGapChar h] at hc
  rw [hc, ha] at h
  cases h

@[simp] theorem endsInGap_concat (x : List Char) (c : Char) :
    endsInGap (x ++ [c]) = isGapChar c := by
  simp [endsInGap]

theorem endsInGap_append (x : List Char) {y : List Char} (h : endsInGap y = true) :
    endsInGap (x ++ y) = true := by
  obtain ⟨c, hc, hgap⟩ := (Option.any_eq_true _ _).1 h
  simp [endsInGap, List.getLast?_append, hc, hgap]

theorem isSpaced_letter {a : Char} {q : List (Option Char)} :
    isSpaced (some a :: q) = true ↔ isGapChar a = false ∧ isSpaced q = true := by
  simp [isSpaced]

theorem isSpaced_of_gap {q : List (Option Char)} (h : isSpaced (none :: q) = true) :
    isSpaced q = true := by
  cases q with
  | nil => rfl
  | cons s q =>
      cases s with
      | none => simp [isSpaced] at h
      | some a => simpa [isSpaced] using h

theorem isSpaced_right {p q : List (Option Char)} (h : isSpaced (p ++ q) = true) :
    isSpaced q = true := by
  induction p with
  | nil => exact h
  | cons s p ih =>
      cases s with
      | none => exact ih (isSpaced_of_gap h)
      | some a => exact ih (isSpaced_letter.1 h).2

theorem isSpaced_left {p q : List (Option Char)} (h : isSpaced (p ++ q) = true) :
    isSpaced p = true := by
  induction p with
  | nil => rfl
  | cons s p ih =>
      match s, p with
      | some a, p =>
          obtain ⟨ha, hp⟩ := isSpaced_letter.1 h
          exact isSpaced_letter.2 ⟨ha, ih hp⟩
      | none, [] => rfl
      | none, some a :: p => exact ih (isSpaced_of_gap h)
      | none, none :: p => simp [isSpaced] at h

/-! ### Texts that follow letters -/

namespace Fits

variable {q q' : List (Option Char)} {x x' y y' : List Char}

theorem append (h : Fits q x) (h' : Fits q' x') : Fits (q ++ q') (x ++ x') := by
  induction h with
  | nil => exact h'
  | letter hc _ ih => exact .letter hc ih
  | last hc _ ih => exact .last hc ih
  | more hc _ ih => exact .more hc ih

theorem of_map {letters w : List Char} (h : w.map foldChar = letters) :
    Fits (letters.map some) w := by
  subst h
  induction w with
  | nil => exact .nil
  | cons c w ih => exact .letter rfl ih

theorem of_gap {g : List Char} (hne : g ≠ []) (hg : ∀ c ∈ g, isGapChar c = true) :
    Fits [none] g := by
  induction g with
  | nil => exact absurd rfl hne
  | cons c g ih =>
      by_cases hg' : g = []
      · subst hg'
        exact .last (hg c (by simp)) .nil
      · exact .more (hg c (by simp)) (ih hg' fun e he => hg e (List.mem_cons_of_mem c he))

/-- After a gap comes no blank: the next letter does, or else what follows the whole text. -/
theorem front_not_gap (h : Fits q x) (hs : isSpaced (none :: q) = true)
    (hy : q = [] → startsInGap y = false) : startsInGap (x ++ y) = false := by
  cases h with
  | nil => exact hy rfl
  | letter hc _ =>
      have hs' := isSpaced_of_gap hs
      exact isGapChar_of_foldChar (isSpaced_letter.1 hs').1 hc
  | last => simp [isSpaced] at hs
  | more => simp [isSpaced] at hs

/-- The rest of a text follows the rest of the letters. -/
theorem drop (h : Fits q (x ++ x')) : ∃ q', q' <:+ q ∧ Fits q' x' := by
  induction x generalizing q with
  | nil => exact ⟨q, List.suffix_rfl, h⟩
  | cons c x ih =>
      cases h with
      | letter _ h | last _ h =>
          obtain ⟨q', hq, hx⟩ := ih h
          exact ⟨q', hq.trans (List.suffix_cons _ _), hx⟩
      | more _ h => exact ih h

/-- A proper rest follows a proper rest, if a letter comes first. -/
theorem drop_letter {a : Char} (h : Fits (some a :: q) (x ++ x')) (hx : x ≠ []) :
    ∃ q', q' <:+ q ∧ Fits q' x' := by
  cases x with
  | nil => exact absurd rfl hx
  | cons c x =>
      cases h with
      | letter _ h => exact h.drop

theorem not_isGapChar {a c : Char} (h : Fits (some a :: q) (c :: x))
    (hs : isSpaced (some a :: q) = true) : isGapChar c = false := by
  cases h with
  | letter hc => exact isGapChar_of_foldChar (isSpaced_letter.1 hs).1 hc

/-- One text leaves a gap only where every text that shares it does, unless it ends there. -/
theorem eq_nil_of_gap (h : Fits q x) (hs : isSpaced (none :: q) = true)
    (h' : Fits (none :: q') x') (e : x ++ y = x' ++ y') : q = [] := by
  by_contra hq
  have hfront := h.front_not_gap (y := y) hs fun hq' => absurd hq' hq
  rw [e] at hfront
  cases h' with
  | last hc | more hc => simp [startsInGap, hc] at hfront

/-- **Texts that share a beginning follow the same letters.** -/
theorem overlap (h : Fits q x) (h' : Fits q' x') (hs : isSpaced q = true)
    (hs' : isSpaced q' = true) (e : x ++ y = x' ++ y') : q <+: q' ∨ q' <+: q := by
  induction h generalizing q' x' with
  | nil => exact .inl List.nil_prefix
  | @letter a c q x hc h ih =>
      have hgap := (Fits.letter hc h).not_isGapChar hs
      cases h' with
      | nil => exact .inr List.nil_prefix
      | @letter a' c' q' x' hc' h' =>
          obtain ⟨rfl, htail⟩ := List.cons.inj e
          obtain rfl : a = a' := hc.symm.trans hc'
          have hrest := ih h' (isSpaced_letter.1 hs).2 (isSpaced_letter.1 hs').2 htail
          simpa [List.cons_prefix_cons] using hrest
      | last hc' | more hc' =>
          obtain ⟨rfl, -⟩ := List.cons.inj e
          rw [hgap] at hc'
          cases hc'
  | @last c q x hc h ih =>
      -- The first text leaves the gap here; the second leaves it too, or the first is at its end.
      cases h' with
      | nil => exact .inr List.nil_prefix
      | letter hc' h' =>
          obtain ⟨rfl, -⟩ := List.cons.inj e
          rw [(Fits.letter hc' h').not_isGapChar hs'] at hc
          cases hc
      | last _ h' =>
          have hrest := ih h' (isSpaced_of_gap hs) (isSpaced_of_gap hs') (List.cons.inj e).2
          simpa [List.cons_prefix_cons] using hrest
      | more _ h' =>
          obtain rfl := h.eq_nil_of_gap hs h' (List.cons.inj e).2
          exact .inl (by simp)
  | @more c q x hc h ih =>
      cases h' with
      | nil => exact .inr List.nil_prefix
      | letter hc' h' =>
          obtain ⟨rfl, -⟩ := List.cons.inj e
          rw [(Fits.letter hc' h').not_isGapChar hs'] at hc
          cases hc
      | last _ h' =>
          obtain rfl := h'.eq_nil_of_gap hs' h (List.cons.inj e).2.symm
          exact .inr (by simp)
      | more _ h' => exact ih h' hs hs' (List.cons.inj e).2

theorem starts_in_gap (h : Fits q x) (hq : q.head? = some none) : startsInGap x = true := by
  cases h with
  | nil | letter => simp at hq
  | last hc | more hc => simpa [startsInGap] using hc

theorem ends_in_gap (h : Fits q x) (hq : q.getLast? = some none) : endsInGap x = true := by
  induction h with
  | nil => simp at hq
  | letter _ _ ih =>
      rw [List.getLast?_cons, Option.some.injEq, Option.getD_eq_iff] at hq
      exact endsInGap_append [_] (ih (by simpa using hq))
  | @last c q x hc h ih =>
      by_cases hnil : q = []
      · subst hnil
        cases h with
        | nil => simpa [endsInGap] using hc
      · rw [List.getLast?_cons_of_ne_nil hnil] at hq
        exact endsInGap_append [c] (ih hq)
  | more _ _ ih => exact endsInGap_append [_] (ih hq)

/-- A character that is neither a letter of the list nor blank is not in the text. -/
theorem not_mem {c : Char} (h : Fits q x) (hfold : foldChar c = c) (hgap : isGapChar c = false)
    (hc : some c ∉ q) : c ∉ x := by
  induction h with
  | nil => simp
  | letter hd _ ih =>
      simp only [List.mem_cons, not_or] at hc ⊢
      refine ⟨?_, ih hc.2⟩
      rintro rfl
      exact hc.1 (by rw [← hd, hfold])
  | last hd _ ih | more hd _ ih =>
      simp only [List.mem_cons, not_or] at hc ⊢
      refine ⟨?_, ih (by simpa using hc)⟩
      rintro rfl
      rw [hgap] at hd
      cases hd

end Fits

theorem Matches.fits {p : Phrase} {x : List Char} (h : Matches p x) : Fits p.symbols x := by
  induction h with
  | nil => exact .nil
  | word hw _ ih => exact (Fits.of_map hw).append ih
  | gap hne hg _ ih => exact (Fits.of_gap hne hg).append ih

/-! ### Measuring -/

theorem wordLength?_append {letters w : List Char} (h : w.map foldChar = letters)
    (y : List Char) : wordLength? letters (w ++ y) = some w.length := by
  subst h
  induction w with
  | nil => simp [wordLength?]
  | cons c w ih => simp [wordLength?, ih]

theorem word_of_wordLength? {letters cs : List Char} {n : Nat}
    (h : wordLength? letters cs = some n) :
    ∃ w y, cs = w ++ y ∧ w.map foldChar = letters ∧ n = w.length := by
  induction letters generalizing cs n with
  | nil =>
      obtain rfl : 0 = n := by simpa [wordLength?] using h
      exact ⟨[], cs, rfl, rfl, rfl⟩
  | cons a letters ih =>
      cases cs with
      | nil => simp [wordLength?] at h
      | cons c cs =>
          simp only [wordLength?] at h
          split at h
          · next hc =>
              obtain ⟨m, hm, rfl⟩ := Option.map_eq_some_iff.1 h
              obtain ⟨w, y, rfl, hw, rfl⟩ := ih hm
              exact ⟨c :: w, y, rfl, by simp [hc, hw], rfl⟩
          · cases h

theorem gapLength?_append {g y : List Char} (hne : g ≠ [])
    (hg : ∀ c ∈ g, isGapChar c = true) (hy : startsInGap y = false) :
    gapLength? (g ++ y) = some g.length := by
  have htake : (g ++ y).takeWhile isGapChar = g := by
    rw [List.takeWhile_append_of_pos hg]
    cases y with
    | nil => simp
    | cons c y =>
        have hc : isGapChar c = false := by simpa [startsInGap] using hy
        simp [hc]
  obtain ⟨n, hn⟩ := Nat.exists_eq_succ_of_ne_zero (mt List.length_eq_zero_iff.1 hne)
  simp [gapLength?, htake, hn]

theorem gap_of_gapLength? {cs : List Char} {n : Nat} (h : gapLength? cs = some n) :
    ∃ g y, cs = g ++ y ∧ g ≠ [] ∧ (∀ c ∈ g, isGapChar c = true) ∧ n = g.length := by
  have hn : (cs.takeWhile isGapChar).length = n ∧ n ≠ 0 := by
    simp only [gapLength?] at h
    split at h
    · cases h
    · next m hm =>
        obtain rfl := Option.some.inj h
        exact ⟨hm, by simp⟩
  refine ⟨cs.takeWhile isGapChar, cs.dropWhile isGapChar, List.takeWhile_append_dropWhile.symm, ?_,
    fun c hc => List.mem_takeWhile_imp hc, hn.1.symm⟩
  intro hnil
  exact hn.2 (by rw [← hn.1, hnil, List.length_nil])

/-- **Measuring is sound**: what a phrase takes is a way to write it. -/
theorem matches_of_length? {p : Phrase} {cs : List Char} {n : Nat}
    (h : length? p cs = some n) : ∃ x y, cs = x ++ y ∧ Matches p x ∧ n = x.length := by
  induction p generalizing cs n with
  | nil =>
      obtain rfl : 0 = n := by simpa [length?] using h
      exact ⟨[], cs, rfl, .nil, rfl⟩
  | cons part p ih =>
      simp only [length?] at h
      split at h
      · next m hm =>
          obtain ⟨l, hl, rfl⟩ := Option.map_eq_some_iff.1 h
          cases part with
          | word letters =>
              obtain ⟨w, z, rfl, hw, rfl⟩ := word_of_wordLength? hm
              rw [List.drop_left] at hl
              obtain ⟨x, y, rfl, hx, rfl⟩ := ih hl
              exact ⟨w ++ x, y, by simp, .word hw hx, by simp⟩
          | gap =>
              obtain ⟨g, z, rfl, hne, hg, rfl⟩ := gap_of_gapLength? hm
              rw [List.drop_left] at hl
              obtain ⟨x, y, rfl, hx, rfl⟩ := ih hl
              exact ⟨g ++ x, y, by simp, .gap hne hg hx, by simp⟩
      · cases h

/-- **Measuring finds every way to write a phrase.**  After a last gap there must be no more blank
space, since a gap takes all there is. -/
theorem Matches.length?_append {p : Phrase} {x y : List Char} (h : Matches p x)
    (hs : isSpaced p.symbols = true)
    (hy : p.symbols.getLast? = some none → startsInGap y = false) :
    length? p (x ++ y) = some x.length := by
  induction h with
  | nil => rfl
  | @word letters w x p hw h ih =>
      have hx : length? p (x ++ y) = some x.length :=
        ih (isSpaced_right hs) fun hlast => hy (by simp [symbols, hlast])
      simp [length?, partLength?, wordLength?_append hw, hx]
  | @gap g x p hne hg h ih =>
      have hx : length? p (x ++ y) = some x.length :=
        ih (isSpaced_of_gap hs) fun hlast => hy (by simp [symbols, List.getLast?_cons, hlast])
      have hfront : startsInGap (x ++ y) = false :=
        h.fits.front_not_gap hs fun hnil => hy (by simp [symbols, hnil])
      simp [length?, partLength?, gapLength?_append hne hg hfront, hx]

end EventRules.Phrase

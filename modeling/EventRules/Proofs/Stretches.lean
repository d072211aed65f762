/-
**Dividing and restoring a text with hidden words.**

A text is divided at the operators that stand alone in it; a word that is hidden is no longer one of
them, since the marker is a word of its own.  So a stretch whose operators are all hidden stays in
one piece, and an operator between blanks that is shown ends it.  Afterwards the marker is turned
back into the word: the stretch is as before, if every hidden word was written *or* and no marker
stood there from the beginning.

Main definitions:

* `Text.IsTrimmed` — a text without white space at its ends;
* `Criteria.IsOperator`, `Criteria.StandsAlone` — operators, and where they count as such.

Main results:

* `Criteria.Hides.restoreChars_append` — **hidden words are restored**;
* `Criteria.segments_operator` — an operator between blanks divides a text;
* `Criteria.Hides.segments_append` — **a text whose operators are all hidden is one stretch**.
-/

import EventRules.Proofs.Hiding

set_option relaxedAutoImplicit false
set_option autoImplicit false

namespace EventRules

/-! ### Beginnings and blanks -/

namespace Text

theorem strip?_eq_some_iff {start cs rest : List Char} :
    strip? start cs = some rest ↔ cs = start ++ rest := by
  induction start generalizing cs with
  | nil => simp [strip?]
  | cons s start ih =>
      cases cs with
      | nil => simp [strip?]
      | cons c cs =>
          by_cases hc : s = c
          · simpa [strip?, hc] using ih
          · simp [strip?, hc, Ne.symm hc]

theorem startsWith_iff {start cs : List Char} : startsWith start cs = true ↔ start <+: cs := by
  rw [startsWith, Option.isSome_iff_exists]
  simp only [strip?_eq_some_iff]
  exact ⟨fun ⟨rest, h⟩ => ⟨rest, h.symm⟩, fun ⟨rest, h⟩ => ⟨rest, h.symm⟩⟩

/-- A beginning that has none of what follows a text is a beginning of the text. -/
theorem prefix_of_prefix_append {x y z : List Char} (h : x <+: y ++ z)
    (hz : ∀ c ∈ z.head?, c ∉ x) : x <+: y := by
  obtain ⟨t, ht⟩ := h
  rcases List.append_eq_append_iff.1 ht with ⟨s, rfl, -⟩ | ⟨s, rfl, rfl⟩
  · exact List.prefix_append x s
  · cases s with
    | nil => simp
    | cons c s => exact absurd (by simp) (hz c (by simp))

theorem replaceFrom_eq_drop (old new : List Char) (n : Nat) (cs : List Char) :
    replaceFrom old new n cs = replaceChars old new (cs.drop n) := by
  induction cs generalizing n with
  | nil => cases n <;> simp [replaceChars, replaceFrom]
  | cons c cs ih =>
      cases n with
      | zero => rfl
      | succ n => simpa [replaceFrom] using ih n

/-- The numbers of the white space characters. -/
def spaceNumbers : List Nat :=
  [0x09, 0x0A, 0x0B, 0x0C, 0x0D, 0x20, 0x85, 0xA0, 0x1680, 0x2000, 0x2001, 0x2002, 0x2003, 0x2004,
    0x2005, 0x2006, 0x2007, 0x2008, 0x2009, 0x200A, 0x2028, 0x2029, 0x202F, 0x205F, 0x3000]

theorem toNat_mem_spaceNumbers {c : Char} (h : isSpace c = true) : c.toNat ∈ spaceNumbers := by
  simp only [isSpace, Bool.or_eq_true, Bool.and_eq_true, beq_iff_eq, decide_eq_true_eq] at h
  simp only [spaceNumbers, List.mem_cons, List.not_mem_nil, or_false]
  omega

/-- White space has no letter case. -/
theorem caseless_of_mem_spaceNumbers : ∀ n ∈ spaceNumbers,
    foldChar (Char.ofNat n) = Char.ofNat n ∧ upperChar (Char.ofNat n) = Char.ofNat n := by
  decide +kernel

theorem foldChar_of_isSpace {c : Char} (h : isSpace c = true) : foldChar c = c := by
  simpa using (caseless_of_mem_spaceNumbers c.toNat (toNat_mem_spaceNumbers h)).1

theorem upperChar_of_isSpace {c : Char} (h : isSpace c = true) : upperChar c = c := by
  simpa using (caseless_of_mem_spaceNumbers c.toNat (toNat_mem_spaceNumbers h)).2

/-- A text without white space at its ends. -/
def IsTrimmed (cs : List Char) : Prop :=
  cs.head?.any isSpace = false ∧ cs.getLast?.any isSpace = false

instance (cs : List Char) : Decidable (IsTrimmed cs) :=
  inferInstanceAs (Decidable (_ ∧ _))

theorem dropWhile_of_head {p : Char → Bool} {cs : List Char} (h : cs.head?.any p = false) :
    cs.dropWhile p = cs := by
  cases cs with
  | nil => rfl
  | cons c cs =>
      have hc : p c = false := by simpa using h
      simp [hc]

theorem IsTrimmed.trimRightChars {cs : List Char} (h : IsTrimmed cs) : trimRightChars cs = cs := by
  rw [Text.trimRightChars, dropWhile_of_head (by simpa using h.2), List.reverse_reverse]

theorem IsTrimmed.trimChars {cs : List Char} (h : IsTrimmed cs) : trimChars cs = cs := by
  rw [Text.trimChars, trimLeftChars, dropWhile_of_head h.1, h.trimRightChars]

theorem IsTrimmed.trimChars_concat {cs : List Char} (h : IsTrimmed cs) (hne : cs ≠ []) :
    Text.trimChars (cs ++ [' ']) = cs := by
  have hleft : (cs ++ [' ']).dropWhile isSpace = cs ++ [' '] :=
    dropWhile_of_head (by simpa [List.head?_append, List.head?_eq_some_head hne] using h.1)
  have hright := h.trimRightChars
  have hspace : isSpace ' ' = true := rfl
  simpa [Text.trimChars, trimLeftChars, hleft, Text.trimRightChars, hspace] using hright

theorem trimChars_cons (cs : List Char) : trimChars (' ' :: cs) = trimChars cs := by
  have hspace : isSpace ' ' = true := rfl
  simp [trimChars, trimLeftChars, hspace]

end Text

namespace Criteria

open EventRules.Text (foldChar isSpace)
open EventRules.Phrase (endsInGap isGapChar startsInGap)

/-! ### Operators -/

/-- **An operator**: *and* or *or*, in any letter case. -/
def IsOperator (w : List Char) : Prop :=
  w.map foldChar = ['a', 'n', 'd'] ∨ w.map foldChar = orWord

instance (w : List Char) : Decidable (IsOperator w) :=
  inferInstanceAs (Decidable (_ ∨ _))

/-- Does a text end inside a word? -/
def endsInWord (cs : List Char) : Bool :=
  cs.getLast?.any isWordChar

/-- What is between the two texts **stands alone**: nothing next to it belongs to a word. -/
def StandsAlone (pre post : List Char) : Prop :=
  endsInWord pre = false ∧ startsInWord post = false

instance (pre post : List Char) : Decidable (StandsAlone pre post) :=
  inferInstanceAs (Decidable (_ ∧ _))

theorem isWordChar_of_isGapChar {c : Char} (h : isGapChar c = true) : isWordChar c = false := by
  simp only [isGapChar, Bool.or_eq_true, beq_iff_eq] at h
  rcases h with (((rfl | rfl) | rfl) | rfl) | rfl <;> rfl

theorem not_startsInWord_of_gap {cs : List Char} (h : startsInGap cs = true) :
    startsInWord cs = false := by
  cases cs with
  | nil => rfl
  | cons c cs => exact isWordChar_of_isGapChar h

theorem not_endsInWord_of_gap {cs : List Char} (h : endsInGap cs = true) :
    endsInWord cs = false := by
  obtain ⟨c, hc, hgap⟩ := (Option.any_eq_true _ _).1 h
  simp [endsInWord, hc, isWordChar_of_isGapChar hgap]

theorem startsInWord_of_append {x y : List Char} (h : startsInWord (x ++ y) = false) :
    startsInWord x = false := by
  cases x with
  | nil => rfl
  | cons c x => exact h

theorem endsInWord_of_append {x y : List Char} (h : endsInWord (x ++ y) = false) :
    endsInWord y = false := by
  cases hy : y.getLast? with
  | none => simp [endsInWord, hy]
  | some c => simpa [endsInWord, List.getLast?_append, hy] using h

theorem endsInWord_concat (cs : List Char) (c : Char) :
    endsInWord (cs ++ [c]) = isWordChar c := by
  simp [endsInWord]

namespace IsOperator

variable {w : List Char}

/-- The letters of an operator in lower case are among these. -/
theorem foldChar_mem (h : IsOperator w) : ∀ c ∈ w, foldChar c ∈ ['a', 'n', 'd', 'o', 'r'] := by
  intro c hc
  have hmem : foldChar c ∈ w.map foldChar := List.mem_map_of_mem hc
  rcases h with h | h
  all_goals
    rw [h] at hmem
    simp only [orWord, List.mem_cons, List.not_mem_nil, or_false] at hmem ⊢
    tauto

theorem not_mem (h : IsOperator w) {c : Char} (hfold : foldChar c = c)
    (hc : c ∉ ['a', 'n', 'd', 'o', 'r']) : c ∉ w := fun hmem =>
  hc (hfold ▸ h.foldChar_mem c hmem)

theorem ne_nil (h : IsOperator w) : w ≠ [] := by
  rintro rfl
  rcases h with h | h <;> cases h

theorem isTrimmed (h : IsOperator w) : Text.IsTrimmed w := by
  have hspace : ∀ c ∈ w, isSpace c = false := by
    intro c hc
    by_contra hs
    rw [Bool.not_eq_false] at hs
    have hmem := h.foldChar_mem c hc
    rw [Text.foldChar_of_isSpace hs] at hmem
    simp only [List.mem_cons, List.not_mem_nil, or_false] at hmem
    rcases hmem with rfl | rfl | rfl | rfl | rfl <;> cases hs
  constructor <;> rw [Option.any_eq_false_iff_get]
  · exact fun _ => hspace _ (List.mem_of_mem_head? (Option.get_mem _))
  · exact fun _ => hspace _ (List.mem_of_mem_getLast? (Option.get_mem _))

/-- An operator is found where it stands alone. -/
theorem operatorLength?_append (h : IsOperator w) {y : List Char} (hy : startsInWord y = false) :
    operatorLength? false (w ++ y) = some w.length := by
  have hword : (Phrase.wordLength? ['a', 'n', 'd'] (w ++ y)).or
      (Phrase.wordLength? orWord (w ++ y)) = some w.length := by
    rcases h with h | h
    · rw [Phrase.wordLength?_append h]
      rfl
    · obtain ⟨c, w', rfl, hc, -⟩ := List.map_eq_cons_iff.1 h
      rw [Phrase.wordLength?_append h]
      simp [Phrase.wordLength?, hc]
  simp [operatorLength?, hword, hy]

end IsOperator

/-- What is found is an operator that stands alone. -/
theorem isOperator_of_operatorLength? {inWord : Bool} {cs : List Char} {n : Nat}
    (h : operatorLength? inWord cs = some n) :
    inWord = false ∧ ∃ w y, cs = w ++ y ∧ IsOperator w ∧ startsInWord y = false := by
  simp only [operatorLength?] at h
  split at h
  · cases h
  · next hin =>
      refine ⟨by simpa using hin, ?_⟩
      split at h
      · next m hm =>
          split at h
          · cases h
          · next hy =>
              rw [Option.or_eq_some_iff] at hm
              rcases hm with hm | ⟨-, hm⟩
              · obtain ⟨w, y, rfl, hw, rfl⟩ := Phrase.word_of_wordLength? hm
                exact ⟨w, y, rfl, .inl hw, by simpa using hy⟩
              · obtain ⟨w, y, rfl, hw, rfl⟩ := Phrase.word_of_wordLength? hm
                exact ⟨w, y, rfl, .inr hw, by simpa using hy⟩
      · cases h

/-! ### Restoring -/

theorem restoreChars_marker (cs : List Char) :
    restoreChars (marker ++ cs) = orWord ++ restoreChars cs := by
  have hstarts : Text.startsWith marker (marker ++ cs) = true :=
    Text.startsWith_iff.2 (List.prefix_append marker cs)
  obtain ⟨c, m, hm⟩ : ∃ c m, marker = c :: m := ⟨_, _, marker_eq⟩
  rw [restoreChars, Text.replaceChars]
  rw [hm] at hstarts ⊢
  rw [List.cons_append] at hstarts ⊢
  rw [Text.replaceFrom, if_pos hstarts, Text.replaceFrom_eq_drop, restoreChars, hm]
  simp

theorem restoreChars_cons {c : Char} {cs : List Char} (h : ¬ marker <+: c :: cs) :
    restoreChars (c :: cs) = c :: restoreChars cs := by
  rw [← Text.startsWith_iff] at h
  rw [restoreChars, Text.replaceChars, Text.replaceFrom, if_neg h]
  rfl

theorem restoreChars_of_not_mem {cs : List Char} (h : '_' ∉ cs) : restoreChars cs = cs := by
  induction cs with
  | nil => rfl
  | cons c cs ih =>
      simp only [List.mem_cons, not_or] at h
      have hmarker : ¬ marker <+: c :: cs := by simp [marker_eq, List.cons_prefix_cons, h.1]
      rw [restoreChars_cons hmarker, ih h.2]

namespace Hides

variable {ks : List Comparator} {pre post u v : List Char}

/-- What is shown inside a word was there. -/
theorem shown_word (hks : ∀ k ∈ ks, k.IsRegular) {x : List Char}
    (h : Hides ks post pre u (x ++ v)) (hpre : endsInGap pre = false)
    (hx : ∀ c ∈ x, isGapChar c = false) : ∃ u', u = x ++ u' := by
  induction x generalizing pre u with
  | nil => exact ⟨u, rfl⟩
  | cons c x ih =>
      rw [List.forall_mem_cons] at hx
      rcases h.shown_cases with ⟨u, rfl, -, h⟩ | ⟨w, u', v', -, -, hw, -⟩
      · obtain ⟨u', rfl⟩ := ih h (by simpa using hx.1) hx.2
        exact ⟨u', rfl⟩
      · rw [(hw.gaps hks).1] at hpre
        cases hpre

/-- A marker that is shown where no word is hidden was in the text. -/
theorem not_marker_shown (hks : ∀ k ∈ ks, k.IsRegular) {c : Char}
    (h : Hides ks post (pre ++ [c]) u v) (hmarker : ¬ marker <:+: c :: u) {t : List Char}
    (ht : ∀ c ∈ t.head?, c ∉ marker) : ¬ marker <+: c :: (v ++ t) := by
  intro hfront
  obtain ⟨v', hv'⟩ := Text.prefix_of_prefix_append (y := c :: v) hfront ht
  rw [marker_eq] at hv'
  obtain ⟨rfl, rfl⟩ := List.cons.inj hv'
  have hletters : ∀ d ∈ ['_', 'O', 'R', '_', '_'], isGapChar d = false := by
    simp [isGapChar]
  obtain ⟨u', rfl⟩ := h.shown_word hks (by simp; rfl) hletters
  refine hmarker ⟨[], u', ?_⟩
  rw [marker_eq]
  rfl

/-- **Hidden words are restored**, if they were all written in lower case. -/
theorem restoreChars_append (hks : ∀ k ∈ ks, k.IsRegular) (h : Hides ks post pre u v)
    (hor : ∀ p w q, u = p ++ (w ++ q) → Used ks (pre ++ p) w (q ++ post) → w = orWord)
    (hmarker : ¬ marker <:+: u) {t : List Char} (ht : ∀ c ∈ t.head?, c ∉ marker) :
    restoreChars (v ++ t) = u ++ restoreChars t := by
  induction h with
  | nil => rfl
  | @keep pre u v c hc h ih =>
      have hshown := h.not_marker_shown hks hmarker ht
      have hrest : restoreChars (v ++ t) = u ++ restoreChars t := by
        refine ih (fun p w q e hw => ?_) fun hin => hmarker ?_
        · exact hor (c :: p) w q (by rw [e]; rfl) (by simpa using hw)
        · exact hin.trans (List.suffix_cons c u).isInfix
      rw [List.cons_append, restoreChars_cons hshown, hrest]
      rfl
  | @hide pre w u v hw h ih =>
      have hrest : restoreChars (v ++ t) = u ++ restoreChars t := by
        refine ih (fun p w' q e hw' => ?_) fun hin => hmarker ?_
        · exact hor (w ++ p) w' q (by rw [e]; simp) (by simpa using hw')
        · exact hin.trans (List.suffix_append w u).isInfix
      have hw : w = orWord := hor [] w u rfl (by simpa using hw)
      rw [List.append_assoc, restoreChars_marker, hrest, hw, List.append_assoc]

end Hides

/-! ### Stretches -/

theorem segments_cons_of_none {inWord : Bool} {c : Char} {cs : List Char}
    (h : operatorLength? inWord (c :: cs) = none) :
    segments inWord 0 (c :: cs) =
      (c :: (segments (isWordChar c) 0 cs).1, (segments (isWordChar c) 0 cs).2) := by
  rw [segments, h]

theorem segments_cons_of_some {inWord : Bool} {c : Char} {cs : List Char} {n : Nat}
    (h : operatorLength? inWord (c :: cs) = some (n + 1)) :
    segments inWord 0 (c :: cs) =
      ([], (c :: cs.take n, (segments (isWordChar c) n cs).1) ::
        (segments (isWordChar c) n cs).2) := by
  rw [segments, h]
  rfl

theorem segments_blank (inWord : Bool) (cs : List Char) :
    segments inWord 0 (' ' :: cs) =
      (' ' :: (segments false 0 cs).1, (segments false 0 cs).2) := by
  refine segments_cons_of_none ?_
  have hfold : foldChar ' ' = ' ' := rfl
  simp [operatorLength?, Phrase.wordLength?, orWord, hfold]

theorem segments_word {x : List Char} (hx : ∀ c ∈ x, isWordChar c = true) (cs : List Char) :
    segments true 0 (x ++ cs) = (x ++ (segments true 0 cs).1, (segments true 0 cs).2) := by
  induction x with
  | nil => rfl
  | cons c x ih =>
      rw [List.forall_mem_cons] at hx
      rw [List.cons_append, segments_cons_of_none (by simp [operatorLength?]), hx.1, ih hx.2]
      rfl

theorem segments_marker (inWord : Bool) (cs : List Char) :
    segments inWord 0 (marker ++ cs) =
      (marker ++ (segments true 0 cs).1, (segments true 0 cs).2) := by
  have hnone (cs : List Char) : operatorLength? inWord ('_' :: cs) = none := by
    have hfold : foldChar '_' = '_' := rfl
    simp [operatorLength?, Phrase.wordLength?, orWord, hfold]
  have hword : ∀ c ∈ ['_', 'O', 'R', '_', '_'], isWordChar c = true :=
    List.all_eq_true.1 (by decide)
  rw [marker_eq, List.cons_append, segments_cons_of_none (hnone _)]
  rw [show isWordChar '_' = true from rfl, segments_word hword]
  rfl

theorem segments_skip (inWord : Bool) (x cs : List Char) :
    segments inWord x.length (x ++ ' ' :: cs) =
      (' ' :: (segments false 0 cs).1, (segments false 0 cs).2) := by
  induction x generalizing inWord with
  | nil => exact segments_blank inWord cs
  | cons c x ih => simpa [segments] using ih (isWordChar c)

/-- An operator between blanks ends one stretch and begins another. -/
theorem segments_operator {w : List Char} (h : IsOperator w) (inWord : Bool) (cs : List Char) :
    segments inWord 0 (' ' :: (w ++ ' ' :: cs)) =
      ([' '], (w, ' ' :: (segments false 0 cs).1) :: (segments false 0 cs).2) := by
  have hlength := h.operatorLength?_append (y := ' ' :: cs) rfl
  obtain ⟨c, w, rfl⟩ := List.exists_cons_of_ne_nil h.ne_nil
  rw [List.cons_append] at hlength ⊢
  rw [segments_blank, segments_cons_of_some hlength, segments_skip, List.take_left]

namespace Hides

variable {ks : List Comparator} {pre post u v : List Char}

/-- What does not start in a word is shown as it is. -/
theorem not_startsInWord (h : Hides ks post pre u v) (hpost : startsInWord post = false)
    {t : List Char} (hv : startsInWord (v ++ t) = false) : startsInWord (u ++ post) = false := by
  cases h with
  | nil => exact hpost
  | keep => exact hv
  | hide =>
      rw [marker_eq] at hv
      cases hv

/-- Where all operators are used, none is shown that stands alone. -/
theorem operatorLength?_shown {c : Char} (h : Hides ks post pre u (c :: v))
    (hunused : ∀ w rest, u ++ post = w ++ rest → ¬ Used ks pre w rest)
    (hall : ∀ w q, u = w ++ q → IsOperator w → StandsAlone pre (q ++ post) →
      Used ks pre w (q ++ post))
    (hpost : startsInWord post = false) {t : List Char} (ht : ∀ d ∈ t.head?, d = ' ')
    {inWord : Bool} (hin : endsInWord pre = true → inWord = true) :
    operatorLength? inWord (c :: (v ++ t)) = none := by
  by_contra hsome
  obtain ⟨n, hn⟩ := Option.ne_none_iff_exists'.1 hsome
  obtain ⟨rfl, w, y, e, hw, hy⟩ := isOperator_of_operatorLength? hn
  obtain ⟨v', hv'⟩ : w <+: c :: v := by
    refine Text.prefix_of_prefix_append (z := t) ⟨y, e.symm⟩ fun d hd => ?_
    rw [ht d hd]
    exact hw.not_mem rfl (by decide)
  obtain rfl : v' ++ t = y := by
    rw [← List.cons_append, ← hv', List.append_assoc] at e
    exact List.append_cancel_left e
  rw [← hv'] at h
  obtain ⟨u', rfl, -, hafter⟩ := h.shown_front (hw.not_mem rfl (by decide))
  have hs : StandsAlone pre (u' ++ post) :=
    ⟨by simpa using hin, hafter.not_startsInWord hpost hy⟩
  exact hunused w (u' ++ post) (List.append_assoc w u' post) (hall w u' rfl hw hs)

/-- **A text whose operators are all hidden is one stretch.** -/
theorem segments_append (h : Hides ks post pre u v)
    (hall : ∀ p w q, u = p ++ (w ++ q) → IsOperator w → StandsAlone (pre ++ p) (q ++ post) →
      Used ks (pre ++ p) w (q ++ post))
    (hpost : startsInWord post = false) {t : List Char} (ht : ∀ c ∈ t.head?, c = ' ')
    (inWord : Bool) (hin : endsInWord pre = true → inWord = true) :
    segments inWord 0 (v ++ t) = (v ++ (segments true 0 t).1, (segments true 0 t).2) := by
  induction h generalizing inWord with
  | nil =>
      cases t with
      | nil => simp
      | cons c t =>
          obtain rfl := ht c (by simp)
          rw [List.nil_append, List.nil_append, segments_blank, segments_blank]
  | @keep pre u v c hc h ih =>
      have hrest : segments (isWordChar c) 0 (v ++ t) =
          (v ++ (segments true 0 t).1, (segments true 0 t).2) := by
        refine ih (fun p w q e hw hs => ?_) _ fun hlast => by rwa [endsInWord_concat] at hlast
        rw [List.append_assoc, List.singleton_append] at hs ⊢
        exact hall (c :: p) w q (by rw [e]; rfl) hw hs
      have hnone : operatorLength? inWord (c :: (v ++ t)) = none :=
        operatorLength?_shown (.keep hc h) hc (by simpa using hall []) hpost ht hin
      rw [List.cons_append, segments_cons_of_none hnone, hrest]
      rfl
  | @hide pre w u v hw h ih =>
      -- The marker ends in a word character, as the word does that it stands for.
      have hrest : segments true 0 (v ++ t) =
          (v ++ (segments true 0 t).1, (segments true 0 t).2) := by
        refine ih (fun p w' q e hw' hs => ?_) true fun _ => rfl
        rw [List.append_assoc] at hs ⊢
        exact hall (w ++ p) w' q (by rw [e]; simp) hw' hs
      rw [List.append_assoc, segments_marker, hrest, List.append_assoc]

end Hides

end Criteria

end EventRules

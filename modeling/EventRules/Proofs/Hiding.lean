/-
**Which words are hidden.**

The comparators are protected one after the other, each by a pass from left to right over what the
earlier ones left.  The result has a description that speaks of the given text alone: a word is
hidden exactly if some comparator is written around it.  A comparator cannot overlap itself, so a
pass misses none; and an earlier pass neither breaks a later comparator, since no other word of it
is hidden, nor makes one, since the marker belongs to none.

Main definitions:

* `Criteria.Comparator.Uses`, `Criteria.Used` — **a comparator is written around a word**;
* `Criteria.Comparator.IsRegular` — what the argument needs of a comparator;
* `Criteria.Hides` — a text with the used words, and no others, replaced by the marker.

Main results:

* `Criteria.Comparator.hides_protect` — a pass hides the words that its comparator uses;
* `Criteria.Hides.trans` — so do several passes together;
* `Criteria.hides_protectChars` — **protecting hides the used words and no others**.
-/

import EventRules.Proofs.Phrases
import EventRules.Rule.Criteria

set_option relaxedAutoImplicit false
set_option autoImplicit false

namespace EventRules.Criteria

open EventRules.Text (foldChar)
open EventRules.Phrase (Fits endsInGap isGapChar isSpaced startsInGap)

/-! ### Comparators in a text -/

/-- A comparator written out: what stands before the *or*, the word, and what stands after it. -/
structure Comparator.Matches (k : Comparator) (b w a : List Char) : Prop where
  before : Phrase.Matches k.before b
  word : w.map foldChar = orWord
  after : Phrase.Matches k.after a

/-- **The comparator uses a word** between two texts: it is written around the word. -/
def Comparator.Uses (k : Comparator) (pre w post : List Char) : Prop :=
  ∃ b a, b <:+ pre ∧ a <+: post ∧ k.Matches b w a

/-- Some comparator of the list uses the word. -/
def Used (ks : List Comparator) (pre w post : List Char) : Prop :=
  ∃ k ∈ ks, k.Uses pre w post

/-- The letters and gaps of a comparator. -/
def Comparator.symbols (k : Comparator) : List (Option Char) :=
  Phrase.symbols k.before ++ (orWord.map some ++ Phrase.symbols k.after)

/-- No word begins as *or* does; `afterGap` says that a word may begin at once. -/
def avoidsWord : Bool → List (Option Char) → Bool
  | _, [] => true
  | _, none :: q => avoidsWord true q
  | afterGap, some a :: q => !(afterGap && a == 'o') && avoidsWord false q

/-- **A regular comparator.**  It cannot overlap itself, and apart from its *or* it cannot overlap
a hidden word or the marker. -/
structure Comparator.IsRegular (k : Comparator) : Prop where
  spaced : isSpaced k.symbols = true
  /-- It begins with a letter, and not as an *or* ends. -/
  begins : (Phrase.symbols k.before).head?.join.any (· != 'r') = true
  gap_before : (Phrase.symbols k.before).getLast? = some none
  gap_after : (Phrase.symbols k.after).head? = some none
  ends : (Phrase.symbols k.after).getLast? ≠ some none
  /-- No end of it is also a beginning. -/
  unbordered : ∀ q ∈ k.symbols.tail.tails, q ≠ [] → ¬ q <+: k.symbols
  unmarked : some '_' ∉ k.symbols
  avoids_before : avoidsWord true (Phrase.symbols k.before) = true
  avoids_after : avoidsWord false (Phrase.symbols k.after) = true

@[simp] theorem used_singleton {k : Comparator} {pre w post : List Char} :
    Used [k] pre w post ↔ k.Uses pre w post := by
  simp [Used]

theorem used_concat {ks : List Comparator} {k : Comparator} {pre w post : List Char} :
    Used (ks ++ [k]) pre w post ↔ Used ks pre w post ∨ k.Uses pre w post := by
  simp [Used, or_and_right, exists_or]

theorem isRegular_of_mem : ∀ k ∈ comparators, k.IsRegular := by
  simp only [comparators, List.forall_mem_cons]
  refine ⟨?_, ?_, ?_, fun _ h => nomatch h⟩ <;> constructor <;> decide +kernel

/-! ### Measuring a comparator -/

namespace Comparator

variable {k : Comparator} {b w a b' w' a' y : List Char}

theorem Matches.word_eq (h : k.Matches b w a) :
    ∃ c d, w = [c, d] ∧ foldChar c = 'o' ∧ foldChar d = 'r' := by
  obtain ⟨c, w', rfl, hc, hw'⟩ := List.map_eq_cons_iff.1 h.word
  obtain ⟨d, w'', rfl, hd, hw''⟩ := List.map_eq_cons_iff.1 hw'
  obtain rfl := List.map_eq_nil_iff.1 hw''
  exact ⟨c, d, rfl, hc, hd⟩

theorem Matches.fits (h : k.Matches b w a) : Fits k.symbols (b ++ (w ++ a)) :=
  h.before.fits.append ((Fits.of_map h.word).append h.after.fits)

theorem IsRegular.letter (hk : k.IsRegular) :
    ∃ l q, Phrase.symbols k.before = some l :: q ∧ l ≠ 'r' := by
  obtain ⟨l, hl, hr⟩ := (Option.any_eq_true _ _).1 hk.begins
  rw [Option.join_eq_some_iff] at hl
  obtain ⟨q, hq⟩ := List.head?_eq_some_iff.1 hl
  exact ⟨l, q, hq, by simpa using hr⟩

theorem IsRegular.spaced_before (hk : k.IsRegular) : isSpaced (Phrase.symbols k.before) = true :=
  Phrase.isSpaced_left hk.spaced

theorem IsRegular.spaced_after (hk : k.IsRegular) : isSpaced (Phrase.symbols k.after) = true :=
  Phrase.isSpaced_right (Phrase.isSpaced_right hk.spaced)

theorem Matches.before_ne_nil (hk : k.IsRegular) (h : k.Matches b w a) : b ≠ [] := by
  obtain ⟨l, q, hq, -⟩ := hk.letter
  have hb := h.before.fits
  rw [hq] at hb
  rintro rfl
  cases hb

theorem Matches.before_head (hk : k.IsRegular) (h : k.Matches b w a) :
    ∀ c ∈ b.head?, foldChar c ≠ 'r' := by
  obtain ⟨l, q, hq, hl⟩ := hk.letter
  have hb := h.before.fits
  rw [hq] at hb
  cases hb with
  | letter hc => simpa [hc] using hl

theorem Matches.length?_after (hk : k.IsRegular) (h : k.Matches b w a) (y : List Char) :
    Phrase.length? k.after (a ++ y) = some a.length :=
  h.after.length?_append hk.spaced_after fun he => absurd he hk.ends

/-- A comparator is measured wherever it is written. -/
theorem lengths?_append (hk : k.IsRegular) (h : k.Matches b w a) (y : List Char) :
    k.lengths? (b ++ (w ++ (a ++ y))) = some (b.length, a.length) := by
  have hbefore : Phrase.length? k.before (b ++ (w ++ (a ++ y))) = some b.length := by
    refine h.before.length?_append hk.spaced_before fun _ => ?_
    obtain ⟨c, d, rfl, hc, -⟩ := h.word_eq
    exact Phrase.isGapChar_of_foldChar (a := 'o') rfl hc
  simp [lengths?, hbefore, Phrase.wordLength?_append h.word, ← List.drop_drop,
    h.length?_after hk]

/-- What is measured is a comparator written out. -/
theorem matches_of_lengths? {cs : List Char} {n m : Nat} (h : k.lengths? cs = some (n, m)) :
    ∃ b w a y, cs = b ++ (w ++ (a ++ y)) ∧ k.Matches b w a ∧ n = b.length ∧ m = a.length := by
  simp only [lengths?] at h
  split at h
  · cases h
  · next n' hn =>
      obtain ⟨b, z, rfl, hb, rfl⟩ := Phrase.matches_of_length? hn
      split at h
      · cases h
      · next l hl =>
          rw [List.drop_left] at hl
          obtain ⟨w, z, rfl, hw, rfl⟩ := Phrase.word_of_wordLength? hl
          obtain ⟨m', hm, he⟩ := Option.map_eq_some_iff.1 h
          obtain ⟨rfl, rfl⟩ := Prod.mk.inj he
          rw [← List.drop_drop, List.drop_left, List.drop_left] at hm
          obtain ⟨a, y, rfl, ha, rfl⟩ := Phrase.matches_of_length? hm
          exact ⟨b, w, a, y, rfl, ⟨hb, hw, ha⟩, rfl, rfl⟩

/-- At one place a comparator is written in one way. -/
theorem Matches.unique (hk : k.IsRegular) (h : k.Matches b w a) (h' : k.Matches b' w' a')
    {y y' : List Char} (e : b ++ (w ++ (a ++ y)) = b' ++ (w' ++ (a' ++ y'))) :
    b = b' ∧ w = w' ∧ a = a' := by
  have hlen := lengths?_append hk h y
  rw [e, lengths?_append hk h' y', Option.some.injEq, Prod.mk.injEq] at hlen
  have hw : w.length = w'.length := by
    rw [← List.length_map (f := foldChar), h.word, ← h'.word, List.length_map]
  obtain ⟨hb, ewords⟩ := List.append_inj e hlen.1.symm
  obtain ⟨hw, eafter⟩ := List.append_inj ewords hw
  exact ⟨hb, hw, (List.append_inj eafter hlen.2.symm).1⟩

/-- A comparator does not begin inside itself. -/
theorem Matches.not_inside (hk : k.IsRegular) (h : k.Matches b w a) (h' : k.Matches b' w' a')
    {z x y y' : List Char} (hz : z ≠ []) (hx : x ≠ []) (e : b ++ (w ++ a) = z ++ x) :
    x ++ y ≠ b' ++ (w' ++ a') ++ y' := by
  intro hoverlap
  obtain ⟨l, q, hq, -⟩ := hk.letter
  have hsymbols : k.symbols = some l :: (q ++ (orWord.map some ++ Phrase.symbols k.after)) := by
    simp [symbols, hq]
  have hfits := h.fits
  rw [e, hsymbols] at hfits
  obtain ⟨q', hsuffix, hrest⟩ := hfits.drop_letter hz
  have hspaced : isSpaced q' = true := by
    obtain ⟨front, hfront⟩ := hsuffix.trans (List.suffix_cons (some l) _)
    rw [← hsymbols] at hfront
    exact Phrase.isSpaced_right (hfront ▸ hk.spaced)
  have hne : q' ≠ [] := by
    rintro rfl
    cases hrest
    exact hx rfl
  rcases hrest.overlap h'.fits hspaced hk.spaced hoverlap with hprefix | hprefix
  · refine hk.unbordered q' ?_ hne hprefix
    rw [hsymbols, List.tail_cons, List.mem_tails]
    exact hsuffix
  · have hlong := hprefix.length_le
    rw [hsymbols, List.length_cons] at hlong
    have := hsuffix.length_le
    omega

/-! ### A pass -/

theorem protectFrom_eq_drop (k : Comparator) (n : Nat) (cs : List Char) :
    k.protectFrom n cs = k.protect (cs.drop n) := by
  induction cs generalizing n with
  | nil => cases n <;> simp [protect, protectFrom]
  | cons c cs ih =>
      cases n with
      | zero => rfl
      | succ n => simpa [protectFrom] using ih n

theorem protect_cons_of_none {c : Char} {cs : List Char} (h : k.lengths? (c :: cs) = none) :
    k.protect (c :: cs) = c :: k.protect cs := by
  simp [protect, protectFrom, h]

theorem protect_of_lengths? {cs : List Char} {n m : Nat} (hne : cs ≠ [])
    (h : k.lengths? cs = some (n, m)) :
    k.protect cs = cs.take n ++ marker ++ (cs.drop (n + orWord.length)).take m ++
      k.protect (cs.drop (n + orWord.length + m)) := by
  obtain ⟨c, cs, rfl⟩ := List.exists_cons_of_ne_nil hne
  obtain ⟨l, hl⟩ : ∃ l, n + orWord.length + m = l + 1 := ⟨n + m + 1, by simp [orWord]; omega⟩
  rw [hl, List.drop_succ_cons, ← protectFrom_eq_drop, protect, protectFrom, h]
  simp only [hl, Nat.add_sub_cancel]

/-- A pass goes over a comparator and hides its word. -/
theorem protect_append (hk : k.IsRegular) (h : k.Matches b w a) (y : List Char) :
    k.protect (b ++ (w ++ (a ++ y))) = b ++ (marker ++ (a ++ k.protect y)) := by
  have hw : orWord.length = w.length := by rw [← h.word, List.length_map]
  have hne : b ++ (w ++ (a ++ y)) ≠ [] := by simp [h.before_ne_nil hk]
  rw [protect_of_lengths? hne (lengths?_append hk h y), hw]
  simp [← List.drop_drop]

end Comparator

/-! ### Texts with hidden words -/

/-- **A text with the used words hidden.**  `Hides ks post pre u v`: between `pre` and `post`, the
text `u` becomes `v` if the words that comparators of `ks` use are replaced by the marker, and
nothing else. -/
inductive Hides (ks : List Comparator) (post : List Char) :
    List Char → List Char → List Char → Prop
  | nil {pre : List Char} : Hides ks post pre [] []
  | keep {pre u v : List Char} {c : Char}
      (hc : ∀ w rest, c :: u ++ post = w ++ rest → ¬ Used ks pre w rest)
      (h : Hides ks post (pre ++ [c]) u v) : Hides ks post pre (c :: u) (c :: v)
  | hide {pre w u v : List Char} (hw : Used ks pre w (u ++ post))
      (h : Hides ks post (pre ++ w) u v) : Hides ks post pre (w ++ u) (marker ++ v)

namespace Hides

variable {ks : List Comparator} {pre post u u₁ u₂ v v₁ v₂ : List Char}

theorem append (h₁ : Hides ks (u₂ ++ post) pre u₁ v₁) (h₂ : Hides ks post (pre ++ u₁) u₂ v₂) :
    Hides ks post pre (u₁ ++ u₂) (v₁ ++ v₂) := by
  induction h₁ with
  | nil => simpa using h₂
  | keep hc _ ih => exact .keep (by simpa using hc) (ih (by simpa using h₂))
  | hide hw _ ih =>
      rw [List.append_assoc, List.append_assoc]
      exact .hide (by simpa using hw) (ih (by simpa using h₂))

theorem word {w : List Char} (hw : Used ks pre w post) : Hides ks post pre w marker := by
  have h : Hides ks post pre (w ++ []) (marker ++ []) := .hide (by simpa using hw) .nil
  simpa using h

/-- What may happen to a first character. -/
theorem cons_cases {c : Char} (h : Hides ks post pre (c :: u) v) :
    (∃ v', v = c :: v' ∧ (∀ w rest, c :: u ++ post = w ++ rest → ¬ Used ks pre w rest) ∧
        Hides ks post (pre ++ [c]) u v') ∨
      ∃ w u' v', c :: u = w ++ u' ∧ v = marker ++ v' ∧ Used ks pre w (u' ++ post) ∧
        Hides ks post (pre ++ w) u' v' := by
  generalize hu : c :: u = u₀ at h
  cases h with
  | nil => cases hu
  | keep hc h =>
      obtain ⟨rfl, rfl⟩ := List.cons.inj hu
      exact .inl ⟨_, rfl, hc, h⟩
  | hide hw h => exact .inr ⟨_, _, _, rfl, rfl, hw, h⟩

/-- Where a first character that is shown may come from. -/
theorem shown_cases {c : Char} (h : Hides ks post pre u (c :: v)) :
    (∃ u', u = c :: u' ∧ (∀ w rest, c :: u' ++ post = w ++ rest → ¬ Used ks pre w rest) ∧
        Hides ks post (pre ++ [c]) u' v) ∨
      ∃ w u' v', u = w ++ u' ∧ c :: v = marker ++ v' ∧ Used ks pre w (u' ++ post) ∧
        Hides ks post (pre ++ w) u' v' := by
  generalize hv : c :: v = v₀ at h
  cases h with
  | nil => cases hv
  | keep hc h =>
      obtain ⟨rfl, rfl⟩ := List.cons.inj hv
      exact .inl ⟨_, rfl, hc, h⟩
  | hide hw h => exact .inr ⟨_, _, _, rfl, rfl, hw, h⟩

/-- Where no word is used, the text stays. -/
theorem keep_append {x : List Char}
    (hx : ∀ x₁ x₂ w rest, x = x₁ ++ x₂ → x₂ ≠ [] → x₂ ++ (u ++ post) = w ++ rest →
      ¬ Used ks (pre ++ x₁) w rest)
    (h : Hides ks post (pre ++ x) u v) : Hides ks post pre (x ++ u) (x ++ v) := by
  induction x generalizing pre with
  | nil => simpa using h
  | cons c x ih =>
      refine .keep (fun w rest e => ?_) (ih (fun x₁ x₂ w rest e hne he => ?_) (by simpa using h))
      · simpa using hx [] (c :: x) w rest rfl (by simp) (by simpa using e)
      · simpa using hx (c :: x₁) x₂ w rest (by simp [e]) hne he

end Hides

/-! ### A pass hides the words it uses -/

namespace Comparator

variable {k : Comparator} {pre cs b w a : List Char}

/-- No comparator lies across the place between two texts. -/
def IsParted (k : Comparator) (pre cs : List Char) : Prop :=
  ∀ x₁ x₂ b w a, x₁ <:+ pre → x₂ <+: cs → x₁ ≠ [] → x₂ ≠ [] → k.Matches b w a →
    b ++ (w ++ a) ≠ x₁ ++ x₂

theorem isParted_nil (k : Comparator) (cs : List Char) : k.IsParted [] cs :=
  fun _ _ _ _ _ hx _ hne => absurd (List.suffix_nil.1 hx) hne

/-- A comparator that uses a word lies across the place before the word. -/
theorem IsParted.not_uses (hk : k.IsRegular) (hp : k.IsParted pre cs) {rest : List Char}
    (e : cs = w ++ rest) : ¬ k.Uses pre w rest := by
  rintro ⟨b, a, hb, ha, h⟩
  obtain ⟨c, d, rfl, -, -⟩ := h.word_eq
  refine hp b ([c, d] ++ a) b [c, d] a hb ?_ (h.before_ne_nil hk) (by simp) h rfl
  rw [e]
  exact (List.prefix_append_right_inj [c, d]).2 ha

/-- Going over a character at which no comparator begins. -/
theorem IsParted.cons {c : Char} (hk : k.IsRegular) (hp : k.IsParted pre (c :: cs))
    (hnone : k.lengths? (c :: cs) = none) : k.IsParted (pre ++ [c]) cs := by
  intro x₁ x₂ b w a hx₁ hx₂ hne₁ hne₂ h e
  rcases List.suffix_concat_iff.1 hx₁ with rfl | ⟨x₁, rfl, hx⟩
  · exact hne₁ rfl
  · have hx₂' : c :: x₂ <+: c :: cs := by simpa [List.cons_prefix_cons] using hx₂
    rw [List.append_assoc, List.singleton_append] at e
    by_cases hnil : x₁ = []
    · subst hnil
      obtain ⟨y, hy⟩ := hx₂'
      have hsome := lengths?_append hk h y
      rw [← List.append_assoc w, ← List.append_assoc b, e, List.nil_append, hy, hnone] at hsome
      cases hsome
    · exact hp x₁ (c :: x₂) b w a hx hx₂' hnil (by simp) h e

/-- Where a comparator is written, no other one lies across a place inside it or at its end. -/
theorem IsParted.only (hk : k.IsRegular) (h : k.Matches b w a) {y X₁ X₂ : List Char}
    (hp : k.IsParted pre (b ++ (w ++ a) ++ y)) (hX : b ++ (w ++ a) = X₁ ++ X₂) (hX₁ : X₁ ≠ [])
    {x₁ x₂ b' w' a' : List Char} (hx₁ : x₁ <:+ pre ++ X₁) (hx₂ : x₂ <+: X₂ ++ y) (hne₁ : x₁ ≠ [])
    (h' : k.Matches b' w' a') (e : b' ++ (w' ++ a') = x₁ ++ x₂) :
    x₁ = X₁ ∧ b' = b ∧ w' = w ∧ a' = a := by
  obtain ⟨z, hz⟩ := hx₁
  obtain ⟨y', hy'⟩ := hx₂
  have hsame : x₁ = X₁ → x₁ = X₁ ∧ b' = b ∧ w' = w ∧ a' = a := by
    rintro rfl
    have hplace : b' ++ (w' ++ (a' ++ y')) = b ++ (w ++ (a ++ y)) := by
      simp only [← List.append_assoc] at e hX ⊢
      rw [e, hX, List.append_assoc, hy', List.append_assoc]
    exact ⟨rfl, h'.unique hk h hplace⟩
  rcases List.append_eq_append_iff.1 hz with ⟨t, rfl, ht⟩ | ⟨t, rfl, ht⟩
  · -- It begins before the first one, or with it.
    by_cases hnil : t = []
    · exact hsame (by simpa [hnil] using ht)
    · refine absurd (e.trans ?_) (hp t (X₁ ++ x₂) b' w' a' (List.suffix_append z t) ?_ hnil
        (by simp [hX₁]) h')
      · rw [ht, List.append_assoc]
      · rw [hX, List.append_assoc, List.prefix_append_right_inj, ← hy']
        exact List.prefix_append x₂ y'
  · -- It begins inside the first one, or with it.
    by_cases hnil : t = []
    · exact hsame (by simpa [hnil] using ht.symm)
    · have hinside : b ++ (w ++ a) = t ++ (x₁ ++ X₂) := by rw [hX, ht, List.append_assoc]
      have hshared : x₁ ++ X₂ ++ y = b' ++ (w' ++ a') ++ y' := by
        rw [e, List.append_assoc, List.append_assoc, hy']
      exact absurd hshared (h.not_inside hk h' hnil (by simp [hne₁]) hinside)

/-- Where a comparator is written, it uses no word but its own. -/
theorem IsParted.not_uses_inside (hk : k.IsRegular) (h : k.Matches b w a) {y X₁ X₂ : List Char}
    (hp : k.IsParted pre (b ++ (w ++ a) ++ y)) (hX : b ++ (w ++ a) = X₁ ++ X₂) (hb : X₁ ≠ b)
    {w' rest : List Char} (e : X₂ ++ y = w' ++ rest) : ¬ k.Uses (pre ++ X₁) w' rest := by
  by_cases hnil : X₁ = []
  · subst hnil
    rw [List.append_nil]
    exact hp.not_uses hk (by rw [hX, List.nil_append, e])
  · rintro ⟨b', a', hb', ha', h'⟩
    have hfollows : w' ++ a' <+: X₂ ++ y := by
      rw [e]
      exact (List.prefix_append_right_inj w').2 ha'
    obtain ⟨hX₁, hb'', -⟩ := hp.only hk h hX hnil hb' hfollows (h'.before_ne_nil hk) h' rfl
    exact hb (hX₁.symm.trans hb'')

theorem IsParted.after (hk : k.IsRegular) (h : k.Matches b w a) {y : List Char}
    (hp : k.IsParted pre (b ++ (w ++ a) ++ y)) : k.IsParted (pre ++ (b ++ (w ++ a))) y := by
  intro x₁ x₂ b' w' a' hx₁ hx₂ hne₁ hne₂ h' e
  have hne : b ++ (w ++ a) ≠ [] := by simp [h.before_ne_nil hk]
  obtain ⟨rfl, rfl, rfl, rfl⟩ :=
    hp.only hk h (List.append_nil _).symm hne hx₁ (by simpa using hx₂) hne₁ h' e
  exact hne₂ (by simpa using e)

/-- **A pass hides the words that its comparator uses**, and no others. -/
theorem hides_protect (hk : k.IsRegular) (hp : k.IsParted pre cs) :
    Hides [k] [] pre cs (k.protect cs) := by
  -- On the length, since a pass goes over a whole comparator at once.  That no comparator lies
  -- across the place reached is what is carried along.
  induction hn : cs.length using Nat.strong_induction_on generalizing pre cs with
  | _ n ih =>
  subst hn
  cases cs with
  | nil => exact .nil
  | cons c cs =>
      cases hl : k.lengths? (c :: cs) with
      | none =>
          rw [protect_cons_of_none hl]
          refine .keep (fun w rest e hu => ?_) (ih cs.length (by simp) (hp.cons hk hl) rfl)
          exact hp.not_uses hk (by simpa using e) (used_singleton.1 hu)
      | some lengths =>
          obtain ⟨b, w, a, y, e, h, -, -⟩ := matches_of_lengths? hl
          rw [e] at hp ih ⊢
          have hp' : k.IsParted pre (b ++ (w ++ a) ++ y) := by simpa using hp
          have hshort : y.length < (b ++ (w ++ (a ++ y))).length := by
            have hpos := List.length_pos_iff.2 (h.before_ne_nil hk)
            simp only [List.length_append]
            omega
          have hafter : Hides [k] [] (pre ++ (b ++ (w ++ a))) y (k.protect y) :=
            ih y.length hshort (hp'.after hk h) rfl
          rw [protect_append hk h]
          refine .keep_append ?_ (.hide ?_ (.keep_append ?_ (by simpa using hafter)))
          · intro b₁ b₂ w' rest hb hne e hu
            have hX : b ++ (w ++ a) = b₁ ++ (b₂ ++ (w ++ a)) := by rw [hb, List.append_assoc]
            have hother : b₁ ≠ b := by simpa [hb] using hne
            exact hp'.not_uses_inside hk h hX hother (by simpa using e) (used_singleton.1 hu)
          · exact ⟨k, by simp, b, a, List.suffix_append pre b, by simp, h⟩
          · intro a₁ a₂ w' rest ha hne e hu
            have hX : b ++ (w ++ a) = b ++ (w ++ a₁) ++ a₂ := by simp [ha]
            have hother : b ++ (w ++ a₁) ≠ b := by
              obtain ⟨c, d, rfl, -, -⟩ := h.word_eq
              simp
            rw [List.append_assoc, List.append_assoc] at hu
            exact hp'.not_uses_inside hk h hX hother (by simpa using e) (used_singleton.1 hu)

end Comparator

/-! ### What a hidden word is like -/

namespace Used

variable {ks : List Comparator} {pre w post : List Char}

theorem word_eq (h : Used ks pre w post) :
    ∃ c d, w = [c, d] ∧ foldChar c = 'o' ∧ foldChar d = 'r' := by
  obtain ⟨k, -, b, a, -, -, hm⟩ := h
  exact hm.word_eq

theorem not_mem (h : Used ks pre w post) : '_' ∉ w := by
  obtain ⟨c, d, rfl, hc, hd⟩ := h.word_eq
  have hfold : foldChar '_' = '_' := rfl
  simp only [List.mem_cons, List.not_mem_nil, or_false, not_or]
  constructor
  · rintro rfl
    simp [hfold] at hc
  · rintro rfl
    simp [hfold] at hd

theorem length_pos (h : Used ks pre w post) : 0 < w.length := by
  obtain ⟨c, d, rfl, -, -⟩ := h.word_eq
  simp

theorem gaps (hks : ∀ k ∈ ks, k.IsRegular) (h : Used ks pre w post) :
    endsInGap pre = true ∧ startsInGap post = true := by
  obtain ⟨k, hk, b, a, ⟨pre, rfl⟩, ⟨post, rfl⟩, hm⟩ := h
  constructor
  · exact Phrase.endsInGap_append pre (hm.before.fits.ends_in_gap (hks k hk).gap_before)
  · have ha := hm.after.fits.starts_in_gap (hks k hk).gap_after
    cases a with
    | nil => cases ha
    | cons c a => exact ha

end Used

/-- The letter or gap that a character stands for. -/
def symbolOf (c : Char) : Option Char :=
  if isGapChar c then none else some (foldChar c)

theorem symbolOf_of_foldChar {a c : Char} (ha : isGapChar a = false) (hc : foldChar c = a) :
    symbolOf c = some a := by
  simp [symbolOf, Phrase.isGapChar_of_foldChar ha hc, hc]

theorem avoidsWord_cons {afterGap : Bool} {c : Char} {q : List (Option Char)} :
    avoidsWord afterGap (symbolOf c :: q) = true ↔
      (foldChar c = 'o' → afterGap = false) ∧ avoidsWord (isGapChar c) q = true := by
  by_cases hc : isGapChar c = true
  · have ho : foldChar c ≠ 'o' := fun h =>
      absurd hc (by simp [Phrase.isGapChar_of_foldChar (a := 'o') rfl h])
    simp [symbolOf, avoidsWord, hc, ho]
  · rw [Bool.not_eq_true] at hc
    simp [symbolOf, avoidsWord, hc, imp_iff_not_or, or_comm]

theorem avoidsWord_of_fits {q : List (Option Char)} {x : List Char} {afterGap : Bool}
    (h : Fits q x) (hs : isSpaced q = true) (hq : avoidsWord afterGap q = true) :
    avoidsWord afterGap (x.map symbolOf) = true := by
  induction h generalizing afterGap with
  | nil => exact hq
  | letter hc _ ih =>
      obtain ⟨ha, hs⟩ := Phrase.isSpaced_letter.1 hs
      simp only [avoidsWord, Bool.and_eq_true] at hq
      rw [List.map_cons, symbolOf_of_foldChar ha hc, avoidsWord, hq.1, ih hs hq.2]
      rfl
  | last hc _ ih => simpa [symbolOf, hc, avoidsWord] using ih (Phrase.isSpaced_of_gap hs) hq
  | @more c q x hc _ ih =>
      have hrest : avoidsWord true (x.map symbolOf) = true := ih hs hq
      simpa [symbolOf, hc, avoidsWord] using hrest

theorem marker_eq : marker = ['_', '_', 'O', 'R', '_', '_'] := by
  decide +kernel

theorem avoidsWord_marker : avoidsWord true (marker.map symbolOf) = true := by
  decide +kernel

namespace Hides

variable {ks : List Comparator} {pre post u u₁ u₂ v v₁ v₂ : List Char}

/-- A character at which no word can begin is kept. -/
theorem front_kept (hks : ∀ k ∈ ks, k.IsRegular) {c : Char} (h : Hides ks post pre (c :: u) v)
    (hc : foldChar c = 'o' → endsInGap pre = false) :
    ∃ v', v = c :: v' ∧ Hides ks post (pre ++ [c]) u v' := by
  rcases h.cons_cases with ⟨v', rfl, -, h'⟩ | ⟨w, u', v', e, -, hw, -⟩
  · exact ⟨v', rfl, h'⟩
  · obtain ⟨d, d', rfl, hd, -⟩ := hw.word_eq
    obtain ⟨rfl, -⟩ := List.cons.inj e
    rw [(hw.gaps hks).1] at hc
    cases hc hd

/-- A stretch in which no word can begin is kept. -/
theorem kept (hks : ∀ k ∈ ks, k.IsRegular) {x : List Char} {afterGap : Bool}
    (hx : avoidsWord afterGap (x.map symbolOf) = true)
    (hpre : endsInGap pre = true → afterGap = true) (h : Hides ks post pre (x ++ u) v) :
    ∃ v', v = x ++ v' ∧ Hides ks post (pre ++ x) u v' := by
  induction x generalizing pre v afterGap with
  | nil => exact ⟨v, rfl, by simpa using h⟩
  | cons c x ih =>
      obtain ⟨hc, hx'⟩ := avoidsWord_cons.1 hx
      have hkeep : foldChar c = 'o' → endsInGap pre = false := fun ho => by
        rw [hc ho] at hpre
        simpa using hpre
      obtain ⟨v', rfl, h'⟩ := front_kept hks h hkeep
      obtain ⟨v'', rfl, h''⟩ := ih hx' (by simp) h'
      exact ⟨v'', rfl, by simpa using h''⟩

/-- A text may be divided where the second part does not begin with an *r*. -/
theorem cut (h : Hides ks post pre (u₁ ++ u₂) v) (hr : ∀ c ∈ u₂.head?, foldChar c ≠ 'r') :
    ∃ v₁ v₂, v = v₁ ++ v₂ ∧ Hides ks (u₂ ++ post) pre u₁ v₁ ∧ Hides ks post (pre ++ u₁) u₂ v₂ := by
  generalize hu : u₁ ++ u₂ = u at h
  induction h generalizing u₁ with
  | nil =>
      obtain ⟨rfl, rfl⟩ := List.append_eq_nil_iff.1 hu
      exact ⟨[], [], rfl, .nil, .nil⟩
  | @keep pre u v c hc h ih =>
      rcases List.append_eq_cons_iff.1 hu with ⟨rfl, rfl⟩ | ⟨u₁, rfl, rfl⟩
      · exact ⟨[], c :: v, rfl, .nil, by simpa using .keep hc h⟩
      · obtain ⟨v₁, v₂, rfl, h₁, h₂⟩ := ih rfl
        exact ⟨c :: v₁, v₂, rfl, .keep (by simpa using hc) h₁, by simpa using h₂⟩
  | @hide pre w u v hw h ih =>
      rcases List.append_eq_append_iff.1 hu with ⟨t, ht, rfl⟩ | ⟨t, rfl, rfl⟩
      · -- The division is inside the hidden word, or at one of its ends.
        obtain ⟨c, d, rfl, -, hd⟩ := hw.word_eq
        match u₁, ht with
        | [], ht =>
            obtain rfl : [c, d] = t := ht
            exact ⟨[], marker ++ v, rfl, .nil, by simpa using .hide hw h⟩
        | [_], ht =>
            obtain ⟨rfl, rfl⟩ : c = _ ∧ [d] = t := by simpa using ht
            exact absurd hd (hr d (by simp))
        | [_, _], ht =>
            obtain ⟨rfl, rfl, rfl⟩ : c = _ ∧ d = _ ∧ t = [] := by simpa using ht
            exact ⟨marker, v, rfl, by simpa using .hide (by simpa using hw) .nil, h⟩
      · obtain ⟨v₁, v₂, rfl, h₁, h₂⟩ := ih rfl
        refine ⟨marker ++ v₁, v₂, by simp, .hide (by simpa using hw) h₁, by simpa using h₂⟩

/-- What is shown without an underscore at the front was there. -/
theorem shown_front {x : List Char} (h : Hides ks post pre u (x ++ v)) (hx : '_' ∉ x) :
    ∃ u', u = x ++ u' ∧ Hides ks (u' ++ post) pre x x ∧ Hides ks post (pre ++ x) u' v := by
  induction x generalizing pre u with
  | nil => exact ⟨u, rfl, .nil, by simpa using h⟩
  | cons c x ih =>
      simp only [List.mem_cons, not_or] at hx
      rcases h.shown_cases with ⟨u, rfl, hc, h⟩ | ⟨w, u', v', -, e, -, -⟩
      · obtain ⟨u', rfl, hkept, h'⟩ := ih h hx.2
        exact ⟨u', rfl, .keep (by simpa using hc) hkept, by simpa using h'⟩
      · rw [marker_eq] at e
        exact absurd (List.cons.inj e).1.symm hx.1

theorem eq_nil (h : Hides ks post pre u []) : u = [] := by
  generalize hv : ([] : List Char) = v at h
  cases h with
  | nil => rfl
  | keep => cases hv
  | hide => simp [marker_eq] at hv

/-- What is shown without an underscore at the end was there. -/
theorem shown_end {x : List Char} (h : Hides ks post pre u (v ++ x)) (hx : '_' ∉ x) :
    ∃ u', u = u' ++ x := by
  generalize hv : v ++ x = v' at h
  induction h generalizing v with
  | nil =>
      obtain ⟨rfl, rfl⟩ := List.append_eq_nil_iff.1 hv
      exact ⟨[], rfl⟩
  | @keep pre u v' c hc h ih =>
      rcases List.append_eq_cons_iff.1 hv with ⟨rfl, rfl⟩ | ⟨v, rfl, rfl⟩
      · have hall : Hides ks post pre (c :: u) (c :: v' ++ []) := by simpa using .keep hc h
        obtain ⟨u', hu', -, h'⟩ := hall.shown_front hx
        exact ⟨[], by simpa [h'.eq_nil] using hu'⟩
      · obtain ⟨u', rfl⟩ := ih rfl
        exact ⟨c :: u', rfl⟩
  | @hide pre w u v' hw h ih =>
      rcases List.append_eq_append_iff.1 hv with ⟨t, ht, rfl⟩ | ⟨t, rfl, rfl⟩
      · -- Any end of the marker has an underscore.
        have hnil : t = [] := by
          rcases t.eq_nil_or_concat with rfl | ⟨t, c, rfl⟩
          · rfl
          · have hlast := congrArg List.getLast? ht
            simp only [marker_eq, List.concat_eq_append, ← List.append_assoc,
              List.getLast?_concat] at hlast
            obtain rfl : '_' = c := by simpa using hlast
            simp at hx
        subst hnil
        obtain ⟨u', hu'⟩ := ih (v := []) rfl
        exact ⟨w ++ u', by simp [hu']⟩
      · obtain ⟨u', rfl⟩ := ih rfl
        exact ⟨w ++ u', by simp⟩

theorem of_nil (h : Hides ks post pre [] v) : v = [] := by
  generalize hu : ([] : List Char) = u at h
  cases h with
  | nil => rfl
  | keep => cases hu
  | hide hw =>
      obtain ⟨c, d, rfl, -, -⟩ := hw.word_eq
      cases hu

/-- **What is hidden makes no difference to a comparator**: it uses a word that is shown exactly if
it uses the word in the given text. -/
theorem uses_iff (hks : ∀ k ∈ ks, k.IsRegular) {k : Comparator} (hk : k.IsRegular)
    {w prev : List Char} (hpre : Hides ks (w ++ (u ++ post)) [] pre prev)
    (h : Hides ks post (pre ++ w) u v) : k.Uses prev w v ↔ k.Uses pre w u := by
  constructor
  · rintro ⟨b, a, ⟨y, rfl⟩, ⟨z, rfl⟩, hm⟩
    have hmark {q : List (Option Char)} {x : List Char} (hq : q ⊆ k.symbols) (hx : Fits q x) :
        '_' ∉ x := hx.not_mem rfl rfl fun hmem => hk.unmarked (hq hmem)
    -- What is shown of the comparator has no underscore, so it is no part of a marker.
    obtain ⟨x, rfl⟩ := hpre.shown_end (hmark (by simp [Comparator.symbols]) hm.before.fits)
    obtain ⟨u', rfl, -⟩ := h.shown_front (hmark (by simp [Comparator.symbols]) hm.after.fits)
    exact ⟨b, a, List.suffix_append x b, List.prefix_append a u', hm⟩
  · rintro ⟨b, a, ⟨x, rfl⟩, ⟨z, rfl⟩, hm⟩
    -- No hidden word reaches into the comparator from before, and none begins in it.
    obtain ⟨v₁, v₂, rfl, -, hb⟩ := hpre.cut (hm.before_head hk)
    have havoids := avoidsWord_of_fits hm.before.fits hk.spaced_before hk.avoids_before
    obtain ⟨v₃, rfl, hnil⟩ := kept hks (u := []) havoids (fun _ => rfl) (by simpa using hb)
    obtain rfl := hnil.of_nil
    have havoids := avoidsWord_of_fits hm.after.fits hk.spaced_after hk.avoids_after
    have hword : endsInGap (x ++ b ++ w) = false := by
      obtain ⟨c, d, rfl, -, hd⟩ := hm.word_eq
      have hgap := Phrase.isGapChar_of_foldChar (a := 'r') rfl hd
      simpa [endsInGap] using hgap
    obtain ⟨v', rfl, -⟩ := kept hks havoids (fun hgap => absurd hgap (by rw [hword]; simp)) h
    exact ⟨b, a, by simp, by simp, hm⟩

/-- A word that a comparator uses is shown if its first letter is. -/
theorem uses_shown (hks : ∀ k ∈ ks, k.IsRegular) {k : Comparator} (hk : k.IsRegular)
    {w rest prev : List Char} {c : Char} (hpre : Hides ks (c :: u) [] pre prev)
    (h : Hides ks [] (pre ++ [c]) u v) (e : c :: u = w ++ rest) (hw : k.Uses pre w rest) :
    ∃ rest', c :: v = w ++ rest' ∧ k.Uses prev w rest' := by
  obtain ⟨c', d, rfl, ho, -⟩ := (used_singleton.2 hw).word_eq
  obtain ⟨rfl, rfl⟩ := List.cons.inj e
  have hgap : endsInGap (pre ++ [c]) = false := by
    simpa using Phrase.isGapChar_of_foldChar (a := 'o') rfl ho
  obtain ⟨rest', rfl, hrest⟩ := front_kept hks h fun _ => hgap
  have hbefore : Hides ks ([c, d] ++ (rest ++ [])) [] pre prev := by simpa using hpre
  exact ⟨rest', rfl, (uses_iff hks hk hbefore (by simpa using hrest)).2 hw⟩

/-- **Passes one after the other** hide what any of their comparators uses. -/
theorem trans (hks : ∀ k ∈ ks, k.IsRegular) {k : Comparator} (hk : k.IsRegular)
    {prev v' : List Char} (hpre : Hides ks u [] pre prev) (h : Hides ks [] pre u v)
    (h' : Hides [k] [] prev v v') : Hides (ks ++ [k]) [] pre u v' := by
  -- On the length, since a word that only the last pass hides is two characters for the others.
  induction hn : u.length using Nat.strong_induction_on generalizing pre prev u v v' with
  | _ n ih =>
  subst hn
  cases h with
  | nil =>
      obtain rfl := h'.of_nil
      exact .nil
  | @keep _ u v c hc h =>
      rcases h'.cons_cases with ⟨v', rfl, hc', h'⟩ | ⟨w, v₂, v', e, rfl, hw, h'⟩
      · have hpre' : Hides ks u [] (pre ++ [c]) (prev ++ [c]) :=
          hpre.append (.keep (by simpa using hc) .nil)
        refine .keep (fun w rest e hw => ?_) (ih u.length (by simp) hpre' h h' rfl)
        rcases used_concat.1 hw with hw | hw
        · exact hc w rest e hw
        · obtain ⟨rest', e', hw'⟩ := uses_shown hks hk hpre h (by simpa using e) hw
          exact hc' w rest' (by simpa using e') (used_singleton.2 hw')
      · have hall : Hides ks [] pre (c :: u) (w ++ v₂) := e ▸ .keep hc h
        obtain ⟨u', hu', hkept, hrest⟩ := hall.shown_front hw.not_mem
        rw [hu'] at hpre ih ⊢
        have hpre' : Hides ks u' [] (pre ++ w) (prev ++ w) :=
          hpre.append (by simpa using hkept)
        have hw' : k.Uses pre w u' :=
          (uses_iff hks hk (by simpa using hpre) hrest).1 (by simpa using hw)
        have hshort : u'.length < (w ++ u').length := by simpa using hw.length_pos
        exact .hide (used_concat.2 (.inr (by simpa using hw')))
          (ih u'.length hshort hpre' hrest h' rfl)
  | @hide _ w u v hw h =>
      obtain ⟨v', rfl, hrest⟩ := kept (by simpa using hk) avoidsWord_marker (fun _ => rfl) h'
      have hpre' : Hides ks u [] (pre ++ w) (prev ++ marker) :=
        hpre.append (word (by simpa using hw))
      have hshort : u.length < (w ++ u).length := by simpa using hw.length_pos
      exact .hide (used_concat.2 (.inl hw)) (ih u.length hshort hpre' h hrest rfl)

end Hides

/-! ### All comparators -/

theorem hides_none (pre post u : List Char) : Hides [] post pre u u := by
  induction u generalizing pre with
  | nil => exact .nil
  | cons c u ih => exact .keep (fun _ _ _ hw => by simp [Used] at hw) (ih _)

theorem hides_foldl {ks ks' : List Comparator} (hks : ∀ k ∈ ks, k.IsRegular)
    (hks' : ∀ k ∈ ks', k.IsRegular) {u v : List Char} (h : Hides ks [] [] u v) :
    Hides (ks ++ ks') [] [] u (ks'.foldl (fun cs k => k.protect cs) v) := by
  induction ks' generalizing ks v with
  | nil => simpa using h
  | cons k ks' ih =>
      rw [List.forall_mem_cons] at hks'
      have hk : Hides (ks ++ [k]) [] [] u (k.protect v) :=
        .trans hks hks'.1 .nil h (Comparator.hides_protect hks'.1 (k.isParted_nil v))
      have hall : ∀ k' ∈ ks ++ [k], k'.IsRegular := by
        simpa [or_imp, forall_and] using ⟨hks, hks'.1⟩
      simpa using ih hall hks'.2 hk

/-- **Protecting hides the words that a comparator uses**, and no others. -/
theorem hides_protectChars (cs : List Char) : Hides comparators [] [] cs (protectChars cs) :=
  hides_foldl (List.forall_mem_nil _) isRegular_of_mem (hides_none [] [] cs)

end EventRules.Criteria

/-
**Protecting and restoring.**

Protecting a text takes the words that comparators use off the list of its operators; restoring it
puts them back.  A text without a marker comes back as it was, except that these words are now
written in lower case.  The list of operators says where they are: no two of them overlap, so a pass
over the text knows at each place whether it is inside one.

Main definitions:

* `Criteria.hidden` — **the words that comparators use**, each at its place;
* `Criteria.lowered` — a text with these words in lower case.

Main results:

* `Criteria.Hides.restoreChars_eq` — **hidden words come back in lower case**;
* `Criteria.marker_free_of_mem_split` — no clause has a marker in it;
* `Criteria.protect_undone` — **protecting hides the comparators' words and is undone**.
-/

import EventRules.Proofs.Pieces

set_option relaxedAutoImplicit false
set_option autoImplicit false

namespace EventRules

namespace Text

/-- What occurs in a text with a separator, and does not have it, occurs on one side. -/
theorem infix_of_infix_append_cons {x y z : List Char} {c : Char} (hc : c ∉ z)
    (h : z <:+: x ++ c :: y) : z <:+: x ∨ z <:+: y := by
  induction x with
  | nil =>
      rcases List.infix_cons_iff.1 h with h | h
      · exact .inl (prefix_of_prefix_append (y := []) h (by simpa using hc)).isInfix
      · exact .inr h
  | cons d x ih =>
      rcases List.infix_cons_iff.1 h with h | h
      · exact .inl (prefix_of_prefix_append (y := d :: x) h (by simpa using hc)).isInfix
      · exact (ih h).imp_left fun h => h.trans (List.suffix_cons d x).isInfix

theorem trimChars_isInfix (cs : List Char) : trimChars cs <:+: cs := by
  have hright : trimRightChars (trimLeftChars cs) <+: trimLeftChars cs := by
    have hsuffix := List.dropWhile_suffix isSpace (l := (trimLeftChars cs).reverse)
    rw [trimRightChars]
    simpa using List.reverse_prefix.2 hsuffix
  exact hright.isInfix.trans (List.dropWhile_suffix isSpace).isInfix

end Text

namespace Criteria

open EventRules.Text (foldChar)
open EventRules.Phrase (endsInGap)

/-! ### Words in lower case -/

/-- **The words that comparators use**, in order. -/
def hidden (cs : List Char) : List Occurrence :=
  (operators cs).filter fun o => Used comparators o.before o.word o.after

/-- The place `i` of a text is inside the word. -/
def Occurrence.Covers (o : Occurrence) (i : Nat) : Prop :=
  o.before.length ≤ i ∧ i < o.before.length + o.word.length

instance (o : Occurrence) (i : Nat) : Decidable (o.Covers i) :=
  inferInstanceAs (Decidable (_ ∧ _))

/-- The character `c` at the place `i` of a text, in lower case inside a hidden word. -/
def loweredAt (cs : List Char) (i : Nat) (c : Char) : Char :=
  if ∃ o ∈ hidden cs, o.Covers i then foldChar c else c

/-- **A text with its hidden words in lower case.** -/
def lowered (cs : List Char) : List Char :=
  cs.mapIdx (loweredAt cs)

theorem mem_hidden {cs : List Char} {o : Occurrence} :
    o ∈ hidden cs ↔
      cs = o.before ++ (o.word ++ o.after) ∧ Used comparators o.before o.word o.after := by
  rw [hidden, List.mem_filter, mem_operators, decide_eq_true_eq]
  constructor
  · rintro ⟨h, hw⟩
    exact ⟨h.text_eq, hw⟩
  · rintro ⟨e, hw⟩
    exact ⟨⟨e, hw.isOperator, hw.standsAlone isRegular_of_mem⟩, hw⟩

theorem length_of_mem_hidden {cs : List Char} {o : Occurrence} (h : o ∈ hidden cs) :
    o.word.length = 2 := by
  obtain ⟨c, d, hword, -, -⟩ := (mem_hidden.1 h).2.word_eq
  rw [hword]
  rfl

/-- A hidden word at a given place follows the text before that place. -/
theorem eq_of_mem_hidden {cs pre u : List Char} {o : Occurrence} (e : cs = pre ++ u)
    (h : o ∈ hidden cs) (hlength : o.before.length = pre.length) :
    o.before = pre ∧ u = o.word ++ o.after := by
  obtain ⟨ho, -⟩ := mem_hidden.1 h
  obtain ⟨hpre, hu⟩ := List.append_inj (e.symm.trans ho) hlength.symm
  exact ⟨hpre.symm, hu⟩

/-- **Hidden words come back in lower case.**  No hidden word lies across the beginning of what is
restored. -/
theorem Hides.restoreChars_eq {cs pre u v : List Char} (h : Hides comparators [] pre u v)
    (e : cs = pre ++ u)
    (hacross : ∀ o ∈ hidden cs, o.before.length < pre.length →
      o.before.length + o.word.length ≤ pre.length)
    (hmarker : ¬ marker <:+: u) :
    restoreChars v = u.mapIdx fun i => loweredAt cs (pre.length + i) := by
  induction h with
  | nil => rfl
  | @keep pre u v c hc h ih =>
      rw [List.append_nil] at hc
      have hbegins (o : Occurrence) (ho : o ∈ hidden cs) : o.before.length ≠ pre.length := by
        intro hlength
        obtain ⟨rfl, hu⟩ := eq_of_mem_hidden e ho hlength
        exact hc _ _ hu (mem_hidden.1 ho).2
      have hkept : loweredAt cs pre.length c = c := by
        refine if_neg ?_
        rintro ⟨o, ho, hle, hlt⟩
        have := hacross o ho (lt_of_le_of_ne hle (hbegins o ho))
        omega
      have hshown := h.not_marker_shown isRegular_of_mem hmarker (t := []) (by simp)
      rw [List.append_nil] at hshown
      have hrest := ih (by simpa using e) ?_ fun hin =>
        hmarker (hin.trans (List.suffix_cons c u).isInfix)
      · rw [restoreChars_cons hshown, hrest, List.mapIdx_cons, Nat.add_zero, hkept]
        simp only [List.length_append, List.length_singleton, Nat.add_comm, Nat.add_left_comm]
      · intro o ho hlt
        rw [List.length_append, List.length_singleton] at hlt ⊢
        have := hacross o ho (by have := hbegins o ho; omega)
        omega
  | @hide pre w u v hw h ih =>
      rw [List.append_nil] at hw
      have hmem : ⟨pre, w, u⟩ ∈ hidden cs := mem_hidden.2 ⟨e, hw⟩
      obtain ⟨c, d, rfl, hc, hd⟩ := hw.word_eq
      have hlowered (i : Nat) (hi : i < 2) (a : Char) :
          loweredAt cs (pre.length + i) a = foldChar a :=
        if_pos ⟨_, hmem, Nat.le_add_right _ _, Nat.add_lt_add_left hi _⟩
      have hrest := ih (by simpa using e) ?_ fun hin =>
        hmarker (hin.trans (List.suffix_append [c, d] u).isInfix)
      · rw [restoreChars_marker, hrest, List.mapIdx_append, orWord]
        simp only [List.mapIdx_cons, List.mapIdx_nil, Nat.zero_add, hlowered 0 (by omega),
          hlowered 1 (by omega), hc, hd, List.length_append, List.length_cons, List.length_nil]
        simp only [Nat.add_comm, Nat.add_left_comm]
      · -- A hidden word follows a gap, so none begins at the second letter.
        intro o ho hlt
        have hlength := length_of_mem_hidden ho
        simp only [List.length_append, List.length_cons, List.length_nil] at hlt ⊢
        have hsecond : o.before.length ≠ pre.length + 1 := by
          intro hsecond
          have e' : cs = (pre ++ [c]) ++ d :: u := by simpa using e
          obtain ⟨hbefore, -⟩ := eq_of_mem_hidden e' ho (by simpa using hsecond)
          have hgap := ((mem_hidden.1 ho).2.gaps isRegular_of_mem).1
          rw [hbefore] at hgap
          simp [endsInGap, Phrase.isGapChar_of_foldChar (a := 'o') rfl hc] at hgap
        omega

theorem restoreChars_protectChars {cs : List Char} (h : ¬ marker <:+: cs) :
    restoreChars (protectChars cs) = lowered cs := by
  have hrestore := (hides_protectChars cs).restoreChars_eq rfl (by simp) h
  simpa [lowered] using hrestore

/-! ### Clauses -/

theorem mem_fragments {cs : List Char} {f : Fragment} (h : f ∈ fragments cs) :
    (∃ w, f = .operator w ∧ IsOperator w) ∨ ∃ x, f = .stretch (tidy x) := by
  have hstretch {x : List Char} (hf : f ∈ stretchFragment x) : f = .stretch (tidy x) := by
    rw [stretchFragment] at hf
    split at hf
    · cases hf
    · exact List.mem_singleton.1 hf
  obtain ⟨first, rest, hdivision, hfragments⟩ := fragments_eq cs
  rw [hfragments, List.mem_append, List.mem_flatMap] at h
  rcases h with hf | ⟨r, hr, hf⟩
  · exact .inr ⟨first, hstretch hf⟩
  · rcases List.mem_cons.1 hf with rfl | hf
    · exact .inl ⟨r.1, rfl, hdivision.isOperator r hr⟩
    · exact .inr ⟨r.2, hstretch hf⟩

theorem tidy_marker_free (cs : List Char) : ¬ marker <:+: tidy cs := fun h =>
  restoreChars_marker_free cs (h.trans (Text.trimChars_isInfix _))

/-- The clause of a gap has no marker in it. -/
theorem Gap.clause_marker_free {g : Gap} {cs : List Char}
    (hg : ∀ f ∈ g.fragments, f ∈ Criteria.fragments cs) : ¬ marker <:+: g.clause := by
  have hstretch : ¬ marker <:+: g.stretch := by
    rcases mem_fragments (hg (.stretch g.stretch) (by simp [Gap.fragments])) with
      ⟨w, hw, -⟩ | ⟨x, hx⟩
    · cases hw
    · rw [Fragment.stretch.inj hx]
      exact tidy_marker_free x
  rw [Gap.clause]
  cases hlast : g.operators.getLast? with
  | none => exact hstretch
  | some op =>
      have hmem : Fragment.operator op ∈ g.fragments := by
        simp [Gap.fragments, List.mem_of_getLast? hlast]
      have hop : IsOperator op := by
        rcases mem_fragments (hg _ hmem) with ⟨w, hw, hoperator⟩ | ⟨x, hx⟩
        · rwa [Fragment.operator.inj hw]
        · cases hx
      intro hin
      rcases Text.infix_of_infix_append_cons (by decide +kernel) hin with hin | hin
      · have hunderscore : '_' ∈ op := hin.subset (by rw [marker_eq]; simp)
        exact hop.not_mem rfl (by decide) hunderscore
      · exact hstretch hin

/-- **No clause has a marker in it.** -/
theorem marker_free_of_mem_split {description clause : String} (h : clause ∈ split description) :
    ¬ marker <:+: clause.toList := by
  rw [split] at h
  generalize protectChars (Text.unescapeChars description.toList) = cs at h
  obtain ⟨gaps, dangling, hgaps⟩ := exists_gaps (fragments cs)
  rw [hgaps, clausesFrom_gaps, List.map_map] at h
  obtain ⟨g, hg, rfl⟩ := List.mem_map.1 h
  have hpieces : ∀ f ∈ g.fragments, f ∈ fragments cs := by
    intro f hf
    rw [hgaps]
    exact List.mem_append_left _ (List.mem_flatMap.2 ⟨g, hg, hf⟩)
  rw [Function.comp_apply, String.toList_ofList]
  exact Gap.clause_marker_free hpieces

/-! ### A text -/

/-- **Protecting hides the comparators' words and is undone.**  What it takes off the list of
operators are the words that comparators use; doing it twice changes nothing, and the same holds of
restoring.  No marker is left in what was restored, nor in a clause.  A text without a marker comes
back with these words in lower case, and otherwise as it was. -/
theorem protect_undone (s : String) :
    (operators (protect s).toList).map (·.word) =
        ((operators s.toList).filter
          fun o => ¬ Used comparators o.before o.word o.after).map (·.word) ∧
      (∀ before word after, s.toList = before ++ (word ++ after) →
        Used comparators before word after → ⟨before, word, after⟩ ∈ operators s.toList) ∧
      protect (protect s) = protect s ∧
      restore (restore s) = restore s ∧
      ¬ marker <:+: (restore s).toList ∧
      (∀ clause ∈ split s, ¬ marker <:+: clause.toList) ∧
      (¬ marker <:+: s.toList → (restore (protect s)).toList = lowered s.toList) := by
  simp only [protect, restore, String.toList_ofList]
  refine ⟨(hides_protectChars s.toList).words_operators, fun before word after e hw => ?_, ?_, ?_,
    restoreChars_marker_free s.toList, fun clause hclause => marker_free_of_mem_split hclause,
    fun hmarker => restoreChars_protectChars hmarker⟩
  · exact mem_operators.2 ⟨e, hw.isOperator, hw.standsAlone isRegular_of_mem⟩
  · rw [protectChars_protectChars]
  · rw [restoreChars_restoreChars]

/-- Comparators that share a word, an operator of its own, and underscores next to comparators. -/
theorem protect_undone_mixed :
    let s := "a is _Less than OR equal to\tOr empty or GREATER THAN oR Equal To__"
    ¬ marker <:+: s.toList ∧
      (operators (protect s).toList).map (·.word) = [['o', 'r']] ∧
      restore (protect s) =
        "a is _Less than or equal to\tor empty or GREATER THAN or Equal To__" := by
  intro s
  have hmarker : ¬ marker <:+: s.toList := by decide +kernel
  obtain ⟨hwords, -, -, -, -, -, hundone⟩ := protect_undone s
  refine ⟨hmarker, hwords.trans (by decide +kernel), String.toList_inj.1 ?_⟩
  rw [hundone hmarker]
  decide +kernel

end Criteria

end EventRules

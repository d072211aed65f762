/-
**Operators are whole words, as far as ASCII goes.**

A description is cut at the words *and* and *or* that stand alone and that no comparator uses.
Standing alone means that no ASCII letter, digit or underscore is next to the word.  Letters of
other alphabets do not count: in `Señor` the last two letters are taken for an operator, as `ñ` is
no ASCII letter.

So the operators are exactly the words that they should be wherever no letter beyond ASCII is next
to one of them, whatever is counted as a letter.  In any case there is at most one clause more than
there are operators; a description in which each *and* and *or* has an ASCII letter next to it,
or is used by a comparator, has at most one clause.

Main definitions:

* `Criteria.shown` — the operators of a text that no comparator uses;
* `Criteria.IsWordClass` — what letters, digits and underscores may be in any alphabet;
* `Criteria.Occurrence.IsWholeWord` — a word with none of them next to it;
* `Criteria.Occurrence.IsClear` — a word with none of those beyond ASCII next to it.

Main results:

* `Criteria.isWholeWord_iff` — what an operator lacks to be a whole word;
* `Criteria.length_split_le` — how many clauses there may be;
* `Criteria.split_at_whole_words` — **a description is cut at its ASCII words**.
-/

import EventRules.Proofs.Protecting

set_option relaxedAutoImplicit false
set_option autoImplicit false

namespace EventRules.Criteria

/-! ### Letters of any alphabet -/

/-- **A class of word characters** of any alphabet: in ASCII the letters, the digits and the
underscore, beyond it whatever is taken for a letter or digit. -/
structure IsWordClass (letter : Char → Bool) : Prop where
  ascii : ∀ c : Char, c.toNat < 0x80 → letter c = isWordChar c

/-- An ASCII word character or a letter that has two cases. -/
def isCasedWordChar (c : Char) : Bool :=
  isWordChar c || Text.upperChar c != c || Text.foldChar c != c

theorem isWordClass_isCasedWordChar : IsWordClass isCasedWordChar := by
  have hascii : ∀ n < 0x80,
      isCasedWordChar (Char.ofNat n) = isWordChar (Char.ofNat n) := by
    decide +kernel
  refine ⟨fun c hc => ?_⟩
  have hsame := hascii c.toNat hc
  rwa [Char.ofNat_toNat] at hsame

/-- The characters next to a word. -/
def Occurrence.neighbours (o : Occurrence) : List Char :=
  o.before.getLast?.toList ++ o.after.head?.toList

/-- **A whole word**: no character of the class is next to it. -/
def Occurrence.IsWholeWord (letter : Char → Bool) (o : Occurrence) : Prop :=
  ∀ c ∈ o.neighbours, letter c = false

/-- No letter beyond ASCII is next to the word. -/
def Occurrence.IsClear (letter : Char → Bool) (o : Occurrence) : Prop :=
  ∀ c ∈ o.neighbours, 0x80 ≤ c.toNat → letter c = false

instance (letter : Char → Bool) (o : Occurrence) : Decidable (o.IsWholeWord letter) :=
  List.decidableBAll (fun c : Char => letter c = false) o.neighbours

instance (letter : Char → Bool) (o : Occurrence) : Decidable (o.IsClear letter) :=
  List.decidableBAll (fun c : Char => 0x80 ≤ c.toNat → letter c = false) o.neighbours

/-- Standing alone is being a whole word of ASCII. -/
theorem standsAlone_iff {o : Occurrence} :
    StandsAlone o.before o.after ↔ o.IsWholeWord isWordChar := by
  have hany (x : Option Char) :
      x.any isWordChar = false ↔ ∀ c ∈ x.toList, isWordChar c = false := by
    cases x <;> simp
  have hstart : startsInWord o.after = o.after.head?.any isWordChar := by
    rw [startsInWord]
    cases o.after.head? <;> rfl
  rw [Occurrence.IsWholeWord, Occurrence.neighbours, List.forall_mem_append, StandsAlone, hstart,
    endsInWord, hany, hany]

/-- **What an operator lacks to be a whole word** are letters beyond ASCII next to it. -/
theorem isWholeWord_iff {letter : Char → Bool} (hletter : IsWordClass letter) {o : Occurrence}
    (ho : StandsAlone o.before o.after) :
    o.IsWholeWord letter ↔ o.IsClear letter := by
  constructor
  · intro h c hc _
    exact h c hc
  · intro h c hc
    by_cases hascii : c.toNat < 0x80
    · rw [hletter.ascii c hascii]
      exact standsAlone_iff.1 ho c hc
    · exact h c hc (Nat.le_of_not_lt hascii)

/-! ### The operators of a description -/

/-- **The operators of a text that no comparator uses**, in order. -/
def shown (cs : List Char) : List Occurrence :=
  (operators cs).filter fun o => ¬ Used comparators o.before o.word o.after

/-- An *and* or *or* at its place in a text, whether it stands alone or not. -/
structure Occurrence.OccursIn (o : Occurrence) (cs : List Char) : Prop where
  text_eq : cs = o.before ++ (o.word ++ o.after)
  isOperator : IsOperator o.word

/-- Each *and* and *or* of a text, at its place. -/
def occurrences (cs : List Char) : List Occurrence :=
  (List.range cs.length).flatMap fun n =>
    ([2, 3].map fun k => (⟨cs.take n, (cs.drop n).take k, (cs.drop n).drop k⟩ : Occurrence)).filter
      fun o => IsOperator o.word

theorem mem_occurrences {cs : List Char} {o : Occurrence} :
    o ∈ occurrences cs ↔ o.OccursIn cs := by
  simp only [occurrences, List.mem_flatMap, List.mem_range, List.mem_filter, List.mem_map,
    decide_eq_true_eq]
  constructor
  · rintro ⟨n, -, ⟨k, -, rfl⟩, hw⟩
    exact ⟨by simp only [List.take_append_drop], hw⟩
  · rintro ⟨rfl, hw⟩
    have hpos := List.length_pos_of_ne_nil hw.ne_nil
    refine ⟨o.before.length, by simp only [List.length_append]; omega,
      ⟨o.word.length, hw.length_mem, ?_⟩, hw⟩
    rw [List.take_left, List.drop_left, List.take_left, List.drop_left]

theorem mem_shown {cs : List Char} {o : Occurrence} :
    o ∈ shown cs ↔ o.OccursIn cs ∧ o.IsWholeWord isWordChar ∧
      ¬ Used comparators o.before o.word o.after := by
  rw [shown, List.mem_filter, mem_operators, decide_eq_true_eq, ← and_assoc]
  refine and_congr_left fun _ => ⟨?_, ?_⟩
  · rintro ⟨e, hw, hs⟩
    exact ⟨⟨e, hw⟩, standsAlone_iff.1 hs⟩
  · rintro ⟨⟨e, hw⟩, hs⟩
    exact ⟨e, hw, standsAlone_iff.2 hs⟩

/-- The cuts of a protected text are the operators that are shown, place by place. -/
theorem Division.shows {cs first : List Char} {rest : List (List Char × List Char)}
    (h : Division (protectChars cs) first rest) :
    List.Forall₂ Occurrence.Shows (shown cs) (cuts first rest) := by
  rw [h.cuts_eq]
  exact (hides_protectChars cs).shows_operators

/-! ### The number of clauses -/

/-- Is it a stretch? -/
def Fragment.isStretch : Fragment → Bool
  | .operator _ => false
  | .stretch _ => true

theorem countP_stretchFragment_le (cs : List Char) :
    (stretchFragment cs).countP Fragment.isStretch ≤ 1 := by
  rw [stretchFragment]
  split
  · exact Nat.zero_le 1
  · exact Nat.le_refl 1

theorem countP_operators (ops : List (List Char)) :
    (ops.map Fragment.operator).countP Fragment.isStretch = 0 := by
  simp [List.countP_eq_zero, Fragment.isStretch]

/-- Each gap has one stretch. -/
theorem countP_gaps (gaps : List Gap) :
    (gaps.flatMap Gap.fragments).countP Fragment.isStretch = gaps.length := by
  induction gaps with
  | nil => rfl
  | cons g gaps ih =>
      rw [List.flatMap_cons, List.countP_append, ih, Gap.fragments, List.countP_append,
        countP_operators, List.length_cons]
      simp [Fragment.isStretch, Nat.add_comm]

theorem countP_pieces_le (rest : List (List Char × List Char)) :
    (rest.flatMap fun r => Fragment.operator r.1 :: stretchFragment r.2).countP
      Fragment.isStretch ≤ rest.length := by
  induction rest with
  | nil => exact Nat.le_refl 0
  | cons r rest ih =>
      have hstretch := countP_stretchFragment_le r.2
      have hop : ¬ (Fragment.operator r.1).isStretch = true := nofun
      rw [List.flatMap_cons, List.cons_append, List.countP_cons_of_neg hop, List.countP_append,
        List.length_cons]
      omega

/-- **There is at most one clause more than there are operators.** -/
theorem length_split_le (description : String) :
    (split description).length ≤
      (shown (Text.unescapeChars description.toList)).length + 1 := by
  obtain ⟨first, rest, hdivision, hfragments⟩ :=
    fragments_eq (protectChars (Text.unescapeChars description.toList))
  obtain ⟨gaps, dangling, hgaps⟩ :=
    exists_gaps (fragments (protectChars (Text.unescapeChars description.toList)))
  have hcuts : (cuts first rest).length = rest.length := by
    simpa using congrArg List.length (map_word_cuts first rest)
  have hcount := congrArg (List.countP Fragment.isStretch) (hfragments.symm.trans hgaps)
  rw [List.countP_append, List.countP_append, countP_gaps, countP_operators] at hcount
  have hfirst := countP_stretchFragment_le first
  have hrest := countP_pieces_le rest
  rw [split, hgaps, clausesFrom_gaps, List.length_map, List.length_map,
    hdivision.shows.length_eq, hcuts]
  omega

/-! ### A description -/

/-- **A description is cut at its ASCII words.**  The operators are the words *and* and *or* of the
unescaped text, in any letter case, that have no ASCII letter, digit or underscore next to them and
that no comparator uses.  Such a word is whole in any alphabet exactly if no letter or digit beyond
ASCII is next to it.  There is at most one clause more than there are operators; so there is at most
one if each *and* and *or* is part of a longer word or used by a comparator, provided that it has no
letter or digit beyond ASCII next to it. -/
theorem split_at_whole_words (description : String) :
    let u := Text.unescapeChars description.toList
    (∃ (first : List Char) (rest : List (List Char × List Char)),
      Division (protectChars u) first rest ∧
        fragments (protectChars u) =
          stretchFragment first ++ (rest.flatMap fun r => .operator r.1 :: stretchFragment r.2) ∧
        List.Forall₂ Occurrence.Shows (shown u) (cuts first rest)) ∧
    (∀ o, o ∈ shown u ↔ o.OccursIn u ∧ o.IsWholeWord isWordChar ∧
      ¬ Used comparators o.before o.word o.after) ∧
    (∀ letter, IsWordClass letter → ∀ o ∈ shown u, (o.IsWholeWord letter ↔ o.IsClear letter)) ∧
    (split description).length ≤ (shown u).length + 1 ∧
    (∀ letter, IsWordClass letter →
      (∀ o : Occurrence, o.OccursIn u → o.IsClear letter) →
      (∀ o : Occurrence, o.OccursIn u →
        ¬ o.IsWholeWord letter ∨ Used comparators o.before o.word o.after) →
      (split description).length ≤ 1) := by
  intro u
  have hlength := length_split_le description
  have hwhole (letter : Char → Bool) (hletter : IsWordClass letter) (o : Occurrence)
      (ho : o ∈ shown u) : o.IsWholeWord letter ↔ o.IsClear letter :=
    isWholeWord_iff hletter (standsAlone_iff.2 (mem_shown.1 ho).2.1)
  obtain ⟨first, rest, hdivision, hfragments⟩ := fragments_eq (protectChars u)
  refine ⟨⟨first, rest, hdivision, hfragments, hdivision.shows⟩, fun o => mem_shown, hwhole,
    hlength, fun letter hletter hclear hparts => ?_⟩
  have hnone : shown u = [] := by
    refine List.eq_nil_iff_forall_not_mem.2 fun o ho => ?_
    obtain ⟨hoccurs, -, hunused⟩ := mem_shown.1 ho
    rcases hparts o hoccurs with hpart | hused
    · exact hpart ((hwhole letter hletter o ho).2 (hclear o hoccurs))
    · exact hunused hused
  have hnil : (shown (Text.unescapeChars description.toList)).length = 0 :=
    congrArg List.length hnone
  omega

/-- An operator behind a dash, which is no ASCII character and no letter, and a description whose
words hide operators inside. -/
theorem split_at_whole_words_german :
    let s := "If Größe is equal to Maß &#8212;AND Öl is less than or equal to Strandkörbe"
    let t := "If Ordnung der Ränder is less than or equal to Brandmaß"
    (∀ o ∈ shown (Text.unescapeChars s.toList), o.IsWholeWord isCasedWordChar) ∧
      split s = ["If Größe is equal to Maß —",
        "AND Öl is less than or equal to Strandkörbe"] ∧
      (split t).length ≤ 1 := by
  intro s t
  obtain ⟨-, -, hwhole, -, -⟩ := split_at_whole_words s
  obtain ⟨-, -, -, -, hone⟩ := split_at_whole_words t
  have hclear : ∀ o ∈ shown (Text.unescapeChars s.toList), o.IsClear isCasedWordChar := by
    decide +kernel
  refine ⟨fun o ho => (hwhole _ isWordClass_isCasedWordChar o ho).2 (hclear o ho),
    by decide +kernel, hone _ isWordClass_isCasedWordChar (fun o ho => ?_) (fun o ho => ?_)⟩
  all_goals
    rw [← mem_occurrences] at ho
    revert o
    decide +kernel

/-- A letter beyond ASCII leaves the rest of its word standing alone. -/
theorem split_inside_word :
    let s := "If Señor is equal to 1"
    (∀ o : Occurrence, o.OccursIn (Text.unescapeChars s.toList) →
      ¬ o.IsWholeWord isCasedWordChar) ∧
      split s = ["If Señ", "or is equal to 1"] := by
  refine ⟨fun o ho => ?_, by decide +kernel⟩
  rw [← mem_occurrences] at ho
  revert o
  decide +kernel

end EventRules.Criteria

/-
**Splitting inverts joining.**

Clauses are joined by operators into a description, and the description is split again.  Every
operator that stands alone inside a clause is the *or* of a comparator, hence hidden; an operator
between two clauses is not, unless a comparator happens to be written around it.  So the operators
that are found are the joining ones, and between them stand the clauses with blanks around them.
Restoring a clause gives it back as it was, because its hidden words were all written *or*.

Main definitions:

* `Criteria.IsClause` — **what a clause may be**;
* `Criteria.joinClauses` — clauses with operators between them;
* `Criteria.JointsFree` — no comparator is written around a joining operator.

Main results:

* `Criteria.isUsed_iff`, `Criteria.isClause_iff`, `Criteria.jointsFree_iff` — the conditions can be
  checked;
* `Criteria.segments_joinClauses` — the stretches of a joined text are its clauses;
* `Criteria.split_joinClauses` — **splitting inverts joining**.
-/

import EventRules.Proofs.Stretches

set_option relaxedAutoImplicit false
set_option autoImplicit false

namespace EventRules.Criteria

open EventRules.Text (foldChar)
open EventRules.Phrase (Fits isGapChar)

/-! ### Clauses -/

/-- **What a clause may be.**  Operators that stand alone in it are lower-case and belong to a
comparator that lies wholly in the clause. -/
structure IsClause (c : List Char) : Prop where
  ne_nil : c ≠ []
  trimmed : Text.IsTrimmed c
  /-- There is nothing in it to be unescaped. -/
  no_reference : '&' ∉ c
  no_marker : ¬ marker <:+: c
  operators : ∀ pre w post, c = pre ++ (w ++ post) → IsOperator w → StandsAlone pre post →
    w = orWord ∧ Used comparators pre w post

/-- Clauses with operators between them. -/
def joinClauses (first : String) : List (String × String) → String
  | [] => first
  | (operator, clause) :: rest => first ++ " " ++ operator ++ " " ++ joinClauses clause rest

/-- **No comparator of the joined text uses a joining operator** as its *or*. -/
def JointsFree (first : String) (rest : List (String × String)) : Prop :=
  ∀ before operator clause after, rest = before ++ (operator, clause) :: after →
    ¬ Used comparators ((joinClauses first before).toList ++ [' ']) operator.toList
      (' ' :: (joinClauses clause after).toList)

@[simp] theorem toList_joinClauses_cons (first operator clause : String)
    (rest : List (String × String)) :
    (joinClauses first ((operator, clause) :: rest)).toList =
      first.toList ++ ' ' :: (operator.toList ++ ' ' :: (joinClauses clause rest).toList) := by
  simp [joinClauses]

theorem Used.isOperator {ks : List Comparator} {pre w post : List Char}
    (h : Used ks pre w post) : IsOperator w := by
  obtain ⟨k, -, b, a, -, -, hm⟩ := h
  exact .inr hm.word

theorem Used.append {ks : List Comparator} {pre w post : List Char} (h : Used ks pre w post)
    (x y : List Char) : Used ks (x ++ pre) w (post ++ y) := by
  obtain ⟨k, hk, b, a, hb, ha, hm⟩ := h
  exact ⟨k, hk, b, a, hb.trans (List.suffix_append x pre), ha.trans (List.prefix_append post y), hm⟩

namespace IsClause

variable {c pre post : List Char}

/-- In a longer text, too, the operators that stand alone in a clause are used. -/
theorem used (h : IsClause c) {p w q : List Char} (e : c = p ++ (w ++ q)) (hw : IsOperator w)
    (hs : StandsAlone (pre ++ p) (q ++ post)) : Used comparators (pre ++ p) w (q ++ post) := by
  have hs' : StandsAlone p q := ⟨endsInWord_of_append hs.1, startsInWord_of_append hs.2⟩
  exact (h.operators p w q e hw hs').2.append pre post

/-- In a longer text, too, the words of a clause that are used are lower-case. -/
theorem eq_orWord (h : IsClause c) {p w q : List Char} (e : c = p ++ (w ++ q))
    (hw : Used comparators (pre ++ p) w (q ++ post)) : w = orWord := by
  obtain ⟨hbefore, hafter⟩ := hw.gaps isRegular_of_mem
  have hs : StandsAlone p q :=
    ⟨endsInWord_of_append (not_endsInWord_of_gap hbefore),
      startsInWord_of_append (not_startsInWord_of_gap hafter)⟩
  exact (h.operators p w q e hw.isOperator hs).1

end IsClause

/-! ### Checking the conditions -/

/-- Is some comparator written around a word? -/
def isUsed (pre w post : List Char) : Bool :=
  w.map foldChar == orWord && comparators.any fun k =>
    (pre.tails.any fun b => Phrase.length? k.before b == some b.length) &&
      (Phrase.length? k.after post).isSome

theorem isUsed_iff {pre w post : List Char} :
    isUsed pre w post = true ↔ Used comparators pre w post := by
  simp only [isUsed, Bool.and_eq_true, beq_iff_eq, List.any_eq_true, List.mem_tails,
    Option.isSome_iff_exists]
  constructor
  · rintro ⟨hw, k, hk, ⟨b, hb, hbefore⟩, n, hafter⟩
    obtain ⟨x, y, rfl, hx, hlength⟩ := Phrase.matches_of_length? hbefore
    obtain rfl : y = [] := by simpa using hlength
    obtain ⟨a, z, rfl, ha, -⟩ := Phrase.matches_of_length? hafter
    exact ⟨k, hk, x, a, by simpa using hb, List.prefix_append a z, hx, hw, ha⟩
  · rintro ⟨k, hk, b, a, hb, ⟨z, rfl⟩, hm⟩
    have hregular := isRegular_of_mem k hk
    refine ⟨hm.word, k, hk, ⟨b, hb, ?_⟩, a.length, ?_⟩
    · have hbefore := hm.before.length?_append (y := []) hregular.spaced_before fun _ => rfl
      simpa using hbefore
    · exact hm.length?_after hregular z

instance (pre w post : List Char) : Decidable (Used comparators pre w post) :=
  decidable_of_iff _ isUsed_iff

theorem IsOperator.length_mem {w : List Char} (h : IsOperator w) : w.length ∈ [2, 3] := by
  rcases h with h | h
  all_goals
    have hlength := congrArg List.length h
    simp only [List.length_map, orWord, List.length_cons, List.length_nil] at hlength
    simp [hlength]

theorem isClause_iff {c : List Char} :
    IsClause c ↔ c ≠ [] ∧ Text.IsTrimmed c ∧ '&' ∉ c ∧ ¬ marker <:+: c ∧
      ∀ i < c.length, ∀ n ∈ [2, 3], IsOperator ((c.drop i).take n) →
        StandsAlone (c.take i) ((c.drop i).drop n) →
          (c.drop i).take n = orWord ∧
            Used comparators (c.take i) ((c.drop i).take n) ((c.drop i).drop n) := by
  constructor
  · intro h
    refine ⟨h.ne_nil, h.trimmed, h.no_reference, h.no_marker, fun i _ n _ hw hs => ?_⟩
    exact h.operators _ _ _ (by simp) hw hs
  · rintro ⟨hne, htrimmed, hreference, hmarker, hoperators⟩
    refine ⟨hne, htrimmed, hreference, hmarker, fun pre w post e hw hs => ?_⟩
    have hpos := List.length_pos_iff.2 hw.ne_nil
    have h := hoperators pre.length (by simp [e]; omega) w.length hw.length_mem
    simp only [e, List.take_left, List.drop_left] at h
    exact h hw hs

instance (c : List Char) : Decidable (IsClause c) :=
  decidable_of_iff _ isClause_iff.symm

theorem jointsFree_iff {first : String} {rest : List (String × String)} :
    JointsFree first rest ↔ ∀ i (hi : i < rest.length),
      ¬ Used comparators ((joinClauses first (rest.take i)).toList ++ [' ']) rest[i].1.toList
        (' ' :: (joinClauses rest[i].2 (rest.drop (i + 1))).toList) := by
  constructor
  · intro h i hi
    refine h (rest.take i) rest[i].1 rest[i].2 (rest.drop (i + 1)) ?_
    rw [← List.drop_eq_getElem_cons hi, List.take_append_drop]
  · rintro h before operator clause after rfl
    simpa using h before.length (by simp)

instance (first : String) (rest : List (String × String)) : Decidable (JointsFree first rest) :=
  decidable_of_iff _ jointsFree_iff.symm

/-! ### Joints -/

namespace Hides

variable {ks : List Comparator} {pre post u v : List Char}

/-- An operator that no comparator uses is shown. -/
theorem kept_operator (hks : ∀ k ∈ ks, k.IsRegular) {w : List Char} (hw : IsOperator w)
    (h : Hides ks post pre (w ++ u) v) (hunused : ¬ Used ks pre w (u ++ post)) :
    ∃ v', v = w ++ v' ∧ Hides ks post (pre ++ w) u v' := by
  obtain ⟨c, x, rfl⟩ := List.exists_cons_of_ne_nil hw.ne_nil
  obtain ⟨hletter, havoids⟩ : isGapChar c = false ∧ avoidsWord false (x.map symbolOf) = true := by
    rcases hw with hw | hw
    all_goals
      obtain ⟨hc, hx⟩ := List.cons.inj hw
      exact ⟨Phrase.isGapChar_of_foldChar (by decide) hc,
        avoidsWord_of_fits (Fits.of_map hx) (by decide) (by decide)⟩
  rcases h.cons_cases with ⟨v', rfl, -, h'⟩ | ⟨w', u', v', e, -, hused, -⟩
  · obtain ⟨v'', rfl, h''⟩ := h'.kept hks havoids (by simp [hletter])
    exact ⟨v'', rfl, by simpa using h''⟩
  · -- The hidden word has the letters of the operator, so it is the operator.
    obtain ⟨d, d', rfl, hd, -⟩ := hused.word_eq
    obtain ⟨rfl, hx⟩ := List.cons.inj e
    rcases hw with hw | hw
    · have ha : foldChar c = 'a' := (List.cons.inj hw).1
      rw [hd] at ha
      exact absurd ha (by decide)
    · obtain ⟨c', x', rfl, -, hnil⟩ := List.map_eq_cons_iff.1 (List.cons.inj hw).2
      obtain rfl := List.map_eq_nil_iff.1 hnil
      obtain ⟨rfl, rfl⟩ := List.cons.inj hx
      exact absurd hused hunused

/-- A text is divided at a joint. -/
theorem cut_joint (hks : ∀ k ∈ ks, k.IsRegular) {w u' : List Char} (hw : IsOperator w)
    (h : Hides ks [] pre (u ++ ' ' :: (w ++ ' ' :: u')) v)
    (hunused : ¬ Used ks (pre ++ (u ++ [' '])) w (' ' :: u')) :
    ∃ v₁ v₂, v = v₁ ++ ' ' :: (w ++ ' ' :: v₂) ∧
      Hides ks (' ' :: (w ++ ' ' :: u')) pre u v₁ ∧
      Hides ks [] (pre ++ (u ++ ' ' :: (w ++ [' ']))) u' v₂ := by
  have hblank : foldChar ' ' = ' ' := rfl
  obtain ⟨v₁, x, rfl, h₁, hx⟩ := h.cut (by simp [hblank])
  obtain ⟨y, rfl, hy⟩ := hx.front_kept hks (by simp [hblank])
  obtain ⟨z, rfl, hz⟩ := hy.kept_operator hks hw (by simpa using hunused)
  obtain ⟨v₂, rfl, h₂⟩ := hz.front_kept hks (by simp [hblank])
  exact ⟨v₁, v₂, rfl, by simpa using h₁, by simpa using h₂⟩

end Hides

/-! ### Splitting a joined text -/

theorem tidy_cons (cs : List Char) : tidy (' ' :: cs) = tidy cs := by
  have hmarker : ¬ marker <+: ' ' :: cs := by simp [marker_eq]
  rw [tidy, restoreChars_cons hmarker, Text.trimChars_cons, tidy]

theorem IsOperator.tidy {w : List Char} (h : IsOperator w) : tidy w = w := by
  have hrestore : restoreChars w = w := restoreChars_of_not_mem (h.not_mem rfl (by decide))
  rw [Criteria.tidy, hrestore, h.isTrimmed.trimChars]

namespace IsClause

variable {c pre post v : List Char}

theorem restoreChars_append (h : IsClause c) (hv : Hides comparators post pre c v) {t : List Char}
    (ht : ∀ d ∈ t.head?, d = ' ') : restoreChars (v ++ t) = c ++ restoreChars t := by
  refine hv.restoreChars_append isRegular_of_mem (fun p w q e hw => h.eq_orWord e hw) h.no_marker ?_
  intro d hd
  rw [ht d hd, marker_eq]
  decide

/-- **A clause is found again** in what is shown of it. -/
theorem tidy (h : IsClause c) (hv : Hides comparators post pre c v) : tidy v = c := by
  have hrestore := h.restoreChars_append hv (t := []) (by simp)
  rw [List.append_nil, show restoreChars [] = [] from rfl, List.append_nil] at hrestore
  rw [Criteria.tidy, hrestore, h.trimmed.trimChars]

theorem tidy_concat (h : IsClause c) (hv : Hides comparators post pre c v) :
    Criteria.tidy (v ++ [' ']) = c := by
  have hblank : restoreChars [' '] = [' '] := by decide +kernel
  rw [Criteria.tidy, h.restoreChars_append hv (by simp), hblank]
  exact h.trimmed.trimChars_concat h.ne_nil

end IsClause

/-- **The stretches of a joined text are its clauses**, and its operators the joining ones. -/
theorem segments_joinClauses {first : String} {rest : List (String × String)} {pre V : List Char}
    (h : Hides comparators [] pre (joinClauses first rest).toList V)
    (hpre : endsInWord pre = false) (hf : IsClause first.toList)
    (hr : ∀ r ∈ rest, IsOperator r.1.toList ∧ IsClause r.2.toList)
    (hj : ∀ before operator clause after, rest = before ++ (operator, clause) :: after →
      ¬ Used comparators (pre ++ ((joinClauses first before).toList ++ [' '])) operator.toList
        (' ' :: (joinClauses clause after).toList)) :
    tidy (segments false 0 V).1 = first.toList ∧
      List.Forall₂ (fun s r => s.1 = r.1.toList ∧ tidy s.2 = r.2.toList) (segments false 0 V).2
        rest := by
  induction rest generalizing first pre V with
  | nil =>
      have hV := h.segments_append (fun p w q e hw hs => hf.used e hw hs) rfl (t := []) (by simp)
        false (by simp [hpre])
      simp only [List.append_nil, segments_nil] at hV
      rw [hV]
      exact ⟨hf.tidy h, .nil⟩
  | cons r rest ih =>
      obtain ⟨operator, clause⟩ := r
      rw [List.forall_mem_cons] at hr
      obtain ⟨⟨ho, hc⟩, hr⟩ := hr
      rw [toList_joinClauses_cons] at h
      obtain ⟨v, V, rfl, hv, hV⟩ := h.cut_joint isRegular_of_mem ho (hj [] operator clause rest rfl)
      have hsegments := hv.segments_append (fun p w q e hw hs => hf.used e hw hs) rfl
        (t := ' ' :: (operator.toList ++ ' ' :: V)) (by simp) false (by simp [hpre])
      rw [segments_operator ho] at hsegments
      rw [hsegments]
      have hblank :
          endsInWord (pre ++ (first.toList ++ ' ' :: (operator.toList ++ [' ']))) = false := by
        have hlast := endsInWord_concat (pre ++ (first.toList ++ ' ' :: operator.toList)) ' '
        rw [show isWordChar ' ' = false from rfl] at hlast
        simpa using hlast
      have hrest := ih hV hblank hc hr ?_
      · refine ⟨hf.tidy_concat hv, .cons ⟨rfl, ?_⟩ hrest.2⟩
        rw [tidy_cons]
        exact hrest.1
      · intro before operator' clause' after e
        have hjoint := hj ((operator, clause) :: before) operator' clause' after (by simp [e])
        simpa using hjoint

theorem stretchFragment_of_tidy {cs c : List Char} (h : tidy cs = c) (hne : c ≠ []) :
    stretchFragment cs = [.stretch c] := by
  simp [stretchFragment, h, hne]

theorem fragments_rest {segs : List (List Char × List Char)} {rest : List (String × String)}
    (hr : ∀ r ∈ rest, IsOperator r.1.toList ∧ IsClause r.2.toList)
    (h : List.Forall₂ (fun s r => s.1 = r.1.toList ∧ tidy s.2 = r.2.toList) segs rest) :
    (segs.flatMap fun s => .operator (tidy s.1) :: stretchFragment s.2) =
      rest.flatMap fun r => [.operator r.1.toList, Fragment.stretch r.2.toList] := by
  induction h with
  | nil => rfl
  | cons hs _ ih =>
      rw [List.forall_mem_cons] at hr
      obtain ⟨⟨ho, hc⟩, hr⟩ := hr
      simp [hs.1, ho.tidy, stretchFragment_of_tidy hs.2 hc.ne_nil, ih hr]

theorem clausesFrom_rest (rest : List (String × String)) :
    clausesFrom none
        (rest.flatMap fun r => [.operator r.1.toList, Fragment.stretch r.2.toList]) =
      rest.map fun r => r.1.toList ++ ' ' :: r.2.toList := by
  induction rest with
  | nil => rfl
  | cons r rest ih => simp [clausesFrom, ih]

theorem joinClauses_no_reference {first : String} {rest : List (String × String)}
    (hf : IsClause first.toList)
    (hr : ∀ r ∈ rest, IsOperator r.1.toList ∧ IsClause r.2.toList) :
    '&' ∉ (joinClauses first rest).toList := by
  induction rest generalizing first with
  | nil => exact hf.no_reference
  | cons r rest ih =>
      obtain ⟨operator, clause⟩ := r
      rw [List.forall_mem_cons] at hr
      obtain ⟨⟨ho, hc⟩, hr⟩ := hr
      have hoperator : '&' ∉ operator.toList := ho.not_mem rfl (by decide)
      simp [hf.no_reference, hoperator, ih hc hr]

/-- **Splitting inverts joining.**  Clauses joined by operators are split into these clauses, each
but the first with its operator in front. -/
theorem split_joinClauses (first : String) (rest : List (String × String))
    (hf : IsClause first.toList)
    (hr : ∀ r ∈ rest, IsOperator r.1.toList ∧ IsClause r.2.toList)
    (hj : JointsFree first rest) :
    split (joinClauses first rest) = first :: rest.map fun r => r.1 ++ " " ++ r.2 := by
  have hplain := Text.unescapeChars_of_not_mem (joinClauses_no_reference hf hr)
  obtain ⟨hfirst, hrest⟩ := segments_joinClauses (hides_protectChars _) rfl hf hr hj
  have hfragments : fragments (protectChars (joinClauses first rest).toList) =
      .stretch first.toList ::
        rest.flatMap fun r => [.operator r.1.toList, .stretch r.2.toList] := by
    simp only [fragments]
    rw [stretchFragment_of_tidy hfirst hf.ne_nil, fragments_rest hr hrest]
    rfl
  rw [split, hplain, hfragments, clausesFrom, clausesFrom_rest]
  simp [String.ofList_append, String.append_assoc]

/-- Comparators that overlap, a clause that ends as a comparator begins, and words with operators in
them. -/
theorem split_joinClauses_mixed :
    let first := "band is less than or equal to or empty"
    let rest := [("and", "x is equal to"), ("Or", "employee is Greater\tthan or Equal to y_or")]
    IsClause first.toList ∧ (∀ r ∈ rest, IsOperator r.1.toList ∧ IsClause r.2.toList) ∧
      JointsFree first rest ∧
        split (joinClauses first rest) =
          ["band is less than or equal to or empty", "and x is equal to",
            "Or employee is Greater\tthan or Equal to y_or"] := by
  intro first rest
  have hf : IsClause first.toList := by decide +kernel
  have hr : ∀ r ∈ rest, IsOperator r.1.toList ∧ IsClause r.2.toList := by decide +kernel
  have hj : JointsFree first rest := by decide +kernel
  exact ⟨hf, hr, hj, split_joinClauses first rest hf hr hj⟩

end EventRules.Criteria

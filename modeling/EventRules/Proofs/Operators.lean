/-
**The operators of a text.**

An operator is *and* or *or*, in any letter case, with no word character next to it.  A text has a
list of them, each at its place; this list is defined here without any pass over the text.  Dividing
a text at its operators cuts it at exactly these places and loses nothing, and hiding the words that
comparators use takes exactly these words off the list.

Both are passes from left to right, and what they have to know of the text behind them is only
whether it ends in a word.  No operator begins inside another one, so a pass may jump over it.

Main definitions:

* `Criteria.Occurrence`, `Criteria.Occurrence.StandsIn` — an operator at its place;
* `Criteria.operators` — **the operators that stand alone in a text**, in order;
* `Criteria.cuts`, `Criteria.Division` — the places at which a divided text is cut;
* `Criteria.Occurrence.Shows` — an operator and its image after words were hidden.

Main results:

* `Criteria.mem_operators`, `Criteria.pairwise_operators` — the list has exactly the operators that
  stand alone, from left to right;
* `Criteria.division_segments` — **a text is divided at its operators**;
* `Criteria.Hides.shows_operators` — **hiding words takes them off the list**, place by place.
-/

import Mathlib.Data.List.Forall2
import EventRules.Proofs.Clauses
import EventRules.Proofs.Keys

set_option relaxedAutoImplicit false
set_option autoImplicit false

namespace EventRules

namespace Text

/-- Folding makes no ASCII letter out of another character, but for *s* and *k*. -/
theorem foldChar_ascii {c : Char} (h : 0x80 ≤ c.toNat) :
    0x80 ≤ (foldChar c).toNat ∨ foldChar c ∈ ['s', 'k', '\x00'] := by
  have hruns : ∀ r ∈ foldRuns, 0x80 ≤ r.2.2.2 ∨
      r.1 = r.2.1 ∧ (r.2.2.2 = 's'.toNat ∨ r.2.2.2 = 'k'.toNat) := by
    decide +kernel
  rw [foldChar, if_neg (by omega)]
  rcases mapRuns_cases foldRuns c with hsame | ⟨r, hr, hcontains, htarget⟩
  · exact .inl (by rwa [hsame])
  · obtain ⟨hfirst, hlast, -⟩ := CaseRun.contains_iff.1 hcontains
    rw [htarget]
    rcases hruns r hr with hbeyond | ⟨hone, hletter⟩
    · by_cases hvalid : (r.2.2.2 + (c.toNat - r.1)).isValidChar
      · left
        have hnumber : (Char.ofNat (r.2.2.2 + (c.toNat - r.1))).toNat =
            r.2.2.2 + (c.toNat - r.1) := by
          rw [Char.ofNat, dif_pos hvalid]
          rfl
        omega
      · right
        have hnul : Char.ofNat (r.2.2.2 + (c.toNat - r.1)) = '\x00' := dif_neg hvalid
        simp [hnul]
    · right
      have hzero : c.toNat - r.1 = 0 := by omega
      rcases hletter with hletter | hletter
      all_goals
        rw [hzero, hletter]
        decide

end Text

namespace Criteria

open EventRules.Text (foldChar)
open EventRules.Phrase (endsInGap startsInGap)

/-! ### Letters of operators -/

theorem isWordChar_of_foldChar {c : Char} (h : foldChar c ∈ ['a', 'n', 'd', 'o', 'r']) :
    isWordChar c = true := by
  have hascii : ∀ n < 0x80, foldChar (Char.ofNat n) ∈ ['a', 'n', 'd', 'o', 'r'] →
      isWordChar (Char.ofNat n) = true := by
    decide +kernel
  by_cases hc : c.toNat < 0x80
  · have hword := hascii c.toNat hc
    rw [Char.ofNat_toNat] at hword
    exact hword h
  · exfalso
    rcases Text.foldChar_ascii (Nat.le_of_not_lt hc) with hfold | hfold
    · simp only [List.mem_cons, List.not_mem_nil, or_false] at h
      rcases h with h | h | h | h | h
      all_goals
        rw [h] at hfold
        exact absurd hfold (by decide)
    · simp only [List.mem_cons, List.not_mem_nil, or_false] at h hfold
      rcases hfold with hfold | hfold | hfold
      all_goals
        rw [hfold] at h
        exact absurd h (by decide)

namespace IsOperator

variable {w w' y y' : List Char}

theorem isWordChar (h : IsOperator w) : ∀ c ∈ w, isWordChar c = true :=
  fun c hc => isWordChar_of_foldChar (h.foldChar_mem c hc)

/-- At one place there is at most one operator. -/
theorem eq_of_append (h : IsOperator w) (h' : IsOperator w') (e : w ++ y = w' ++ y') :
    w = w' := by
  obtain ⟨c, x, rfl⟩ := List.exists_cons_of_ne_nil h.ne_nil
  obtain ⟨c', x', rfl⟩ := List.exists_cons_of_ne_nil h'.ne_nil
  obtain ⟨rfl, -⟩ := List.cons.inj e
  have hlength : ((c :: x).map foldChar).length = ((c :: x').map foldChar).length := by
    rcases h with h | h
    all_goals
      rcases h' with h' | h'
      all_goals
        have hfirst := (List.cons.inj h).1.symm.trans (List.cons.inj h').1
        first | exact absurd hfirst (by decide) | rw [h, h']
  rw [List.length_map, List.length_map] at hlength
  exact (List.append_inj e hlength).1

end IsOperator

/-! ### Operators at their places -/

/-- A word at its place in a text. -/
structure Occurrence where
  /-- The text before it. -/
  before : List Char
  /-- The word. -/
  word : List Char
  /-- The text after it. -/
  after : List Char
  deriving DecidableEq

/-- **An operator that stands alone** in a text. -/
structure Occurrence.StandsIn (o : Occurrence) (cs : List Char) : Prop where
  text_eq : cs = o.before ++ (o.word ++ o.after)
  isOperator : IsOperator o.word
  alone : StandsAlone o.before o.after

/-- The operator that stands alone between `pre` and some rest of `cs`. -/
def operatorAt? (pre cs : List Char) : Option Occurrence :=
  [2, 3].findSome? fun n =>
    if IsOperator (cs.take n) ∧ StandsAlone pre (cs.drop n) then
      some ⟨pre, cs.take n, cs.drop n⟩
    else none

/-- The operators that stand alone after the text `pre`, in order. -/
def operatorsFrom (pre : List Char) : List Char → List Occurrence
  | [] => []
  | c :: cs => (operatorAt? pre (c :: cs)).toList ++ operatorsFrom (pre ++ [c]) cs

/-- **The operators that stand alone in a text**, in order. -/
def operators (cs : List Char) : List Occurrence :=
  operatorsFrom [] cs

theorem operatorAt?_eq_some_iff {pre cs : List Char} {o : Occurrence} :
    operatorAt? pre cs = some o ↔
      o.before = pre ∧ cs = o.word ++ o.after ∧ IsOperator o.word ∧ StandsAlone pre o.after := by
  constructor
  · intro h
    obtain ⟨n, -, hn⟩ := List.exists_of_findSome?_eq_some h
    split at hn
    · next hw =>
        obtain rfl := Option.some.inj hn
        exact ⟨rfl, (List.take_append_drop n cs).symm, hw⟩
    · cases hn
  · rintro ⟨rfl, rfl, hw, hs⟩
    obtain ⟨pre, w, post⟩ := o
    dsimp only at hw hs ⊢
    have hmem := hw.length_mem
    simp only [List.mem_cons, List.not_mem_nil, or_false] at hmem
    rcases hmem with hlength | hlength
    · have htwo : [2, 3] = [w.length, 3] := by rw [hlength]
      rw [operatorAt?, htwo]
      simp [hw, hs]
    · -- What two letters leave of the operator is none.
      have hshort : ¬ IsOperator ((w ++ post).take 2) := fun h => by
        have hsame : (w ++ post).take 2 = w :=
          h.eq_of_append hw (List.take_append_drop 2 (w ++ post))
        have hcut := congrArg List.length hsame
        rw [List.length_take] at hcut
        omega
      have hthree : [2, 3] = [2, w.length] := by rw [hlength]
      rw [operatorAt?, hthree]
      simp [hw, hs, hshort]

theorem operatorAt?_eq_none_of_word {pre cs : List Char} (h : endsInWord pre = true) :
    operatorAt? pre cs = none := by
  by_contra hsome
  obtain ⟨o, ho⟩ := Option.ne_none_iff_exists'.1 hsome
  obtain ⟨-, -, -, hs⟩ := operatorAt?_eq_some_iff.1 ho
  rw [hs.1] at h
  cases h

/-- **The list has exactly the operators that stand alone.** -/
theorem mem_operatorsFrom {pre cs : List Char} {o : Occurrence} :
    o ∈ operatorsFrom pre cs ↔
      ∃ x, o.before = pre ++ x ∧ cs = x ++ (o.word ++ o.after) ∧ IsOperator o.word ∧
        StandsAlone o.before o.after := by
  induction cs generalizing pre with
  | nil =>
      simp only [operatorsFrom, List.not_mem_nil, false_iff]
      rintro ⟨x, -, e, hw, -⟩
      obtain ⟨-, hnil⟩ := List.append_eq_nil_iff.1 e.symm
      exact hw.ne_nil (List.append_eq_nil_iff.1 hnil).1
  | cons c cs ih =>
      simp only [operatorsFrom, List.mem_append, Option.mem_toList, operatorAt?_eq_some_iff, ih]
      constructor
      · rintro (⟨hpre, e, hw, hs⟩ | ⟨x, hpre, rfl, hw, hs⟩)
        · exact ⟨[], by simpa using hpre, by simpa using e, hw, by rwa [hpre]⟩
        · exact ⟨c :: x, by simpa using hpre, rfl, hw, hs⟩
      · rintro ⟨x, hpre, e, hw, hs⟩
        cases x with
        | nil =>
            rw [List.append_nil] at hpre
            exact .inl ⟨hpre, by simpa using e, hw, by rwa [hpre] at hs⟩
        | cons d x =>
            obtain ⟨rfl, rfl⟩ := List.cons.inj e
            exact .inr ⟨x, by simpa using hpre, rfl, hw, hs⟩

theorem mem_operators {cs : List Char} {o : Occurrence} :
    o ∈ operators cs ↔ o.StandsIn cs := by
  rw [operators, mem_operatorsFrom]
  constructor
  · rintro ⟨x, hx, e, hw, hs⟩
    obtain rfl : o.before = x := by simpa using hx
    exact ⟨e, hw, hs⟩
  · rintro ⟨e, hw, hs⟩
    exact ⟨o.before, rfl, e, hw, hs⟩

theorem pairwise_operatorsFrom (pre cs : List Char) :
    (operatorsFrom pre cs).Pairwise fun o o' => o.before.length < o'.before.length := by
  induction cs generalizing pre with
  | nil => exact .nil
  | cons c cs ih =>
      rw [operatorsFrom, List.pairwise_append]
      refine ⟨?_, ih _, fun o ho o' ho' => ?_⟩
      · cases operatorAt? pre (c :: cs) with
        | none => exact .nil
        | some o => exact List.pairwise_singleton _ o
      · obtain ⟨hpre, -⟩ := operatorAt?_eq_some_iff.1 (Option.mem_toList.1 ho)
        obtain ⟨x, hx, -⟩ := mem_operatorsFrom.1 ho'
        simp [hpre, hx]

/-- **The list goes from left to right.** -/
theorem pairwise_operators (cs : List Char) :
    (operators cs).Pairwise fun o o' => o.before.length < o'.before.length :=
  pairwise_operatorsFrom [] cs

/-- No operator begins inside a word. -/
theorem operatorsFrom_word {pre x : List Char} (hpre : endsInWord pre = true)
    (hx : ∀ c ∈ x, isWordChar c = true) (cs : List Char) :
    operatorsFrom pre (x ++ cs) = operatorsFrom (pre ++ x) cs := by
  induction x generalizing pre with
  | nil => simp
  | cons c x ih =>
      rw [List.forall_mem_cons] at hx
      have hend : endsInWord (pre ++ [c]) = true := by rw [endsInWord_concat, hx.1]
      rw [List.cons_append, operatorsFrom, operatorAt?_eq_none_of_word hpre, ih hend hx.2]
      simp

/-- After an operator the next one begins behind it. -/
theorem operatorsFrom_operator {pre w post : List Char} (hw : IsOperator w)
    (hs : StandsAlone pre post) :
    operatorsFrom pre (w ++ post) = ⟨pre, w, post⟩ :: operatorsFrom (pre ++ w) post := by
  have hat : operatorAt? pre (w ++ post) = some ⟨pre, w, post⟩ :=
    operatorAt?_eq_some_iff.2 ⟨rfl, rfl, hw, hs⟩
  obtain ⟨c, x, rfl⟩ := List.exists_cons_of_ne_nil hw.ne_nil
  obtain ⟨hc, hx⟩ := List.forall_mem_cons.1 hw.isWordChar
  have hend : endsInWord (pre ++ [c]) = true := by rw [endsInWord_concat, hc]
  rw [List.cons_append] at hat ⊢
  rw [operatorsFrom, hat, operatorsFrom_word hend hx]
  simp

theorem operatorAt?_eq_none_of_underscore (pre cs : List Char) :
    operatorAt? pre ('_' :: cs) = none := by
  by_contra hsome
  obtain ⟨o, ho⟩ := Option.ne_none_iff_exists'.1 hsome
  obtain ⟨-, e, hw, -⟩ := operatorAt?_eq_some_iff.1 ho
  obtain ⟨c, x, hc⟩ := List.exists_cons_of_ne_nil hw.ne_nil
  rw [hc, List.cons_append] at e
  obtain ⟨rfl, -⟩ := List.cons.inj e
  exact hw.not_mem (c := '_') rfl (by decide) (by simp [hc])

theorem isWordChar_of_mem_marker : ∀ c ∈ marker, isWordChar c = true := by
  rw [marker_eq]
  exact List.all_eq_true.1 (by decide)

/-- No operator begins inside a marker. -/
theorem operatorsFrom_marker (pre cs : List Char) :
    operatorsFrom pre (marker ++ cs) = operatorsFrom (pre ++ marker) cs := by
  have hmarker := isWordChar_of_mem_marker
  rw [marker_eq] at hmarker ⊢
  obtain ⟨hc, hx⟩ := List.forall_mem_cons.1 hmarker
  have hend : endsInWord (pre ++ ['_']) = true := by rw [endsInWord_concat, hc]
  rw [List.cons_append, operatorsFrom, operatorAt?_eq_none_of_underscore,
    operatorsFrom_word hend hx]
  simp

/-! ### Dividing at operators -/

/-- Operators with the stretches after them, put together again. -/
def joined (rest : List (List Char × List Char)) : List Char :=
  rest.flatMap fun r => r.1 ++ r.2

@[simp] theorem joined_nil : joined [] = [] := rfl

@[simp] theorem joined_cons (r : List Char × List Char) (rest : List (List Char × List Char)) :
    joined (r :: rest) = r.1 ++ r.2 ++ joined rest := by
  simp [joined]

/-- The places at which a divided text is cut, `pre` being the text before the first of them. -/
def cuts (pre : List Char) : List (List Char × List Char) → List Occurrence
  | [] => []
  | (op, stretch) :: rest =>
      ⟨pre, op, stretch ++ joined rest⟩ :: cuts (pre ++ (op ++ stretch)) rest

/-- **A text divided at its operators**: nothing is lost, and it is cut where an operator stands
alone, and nowhere else. -/
structure Division (cs first : List Char) (rest : List (List Char × List Char)) : Prop where
  joined_eq : first ++ joined rest = cs
  cuts_eq : cuts first rest = operators cs

theorem operatorLength?_eq (pre cs : List Char) :
    operatorLength? (endsInWord pre) cs = (operatorAt? pre cs).map (·.word.length) := by
  cases hat : operatorAt? pre cs with
  | none =>
      by_contra hsome
      obtain ⟨n, hn⟩ := Option.ne_none_iff_exists'.1 hsome
      obtain ⟨hpre, w, post, rfl, hw, hpost⟩ := isOperator_of_operatorLength? hn
      have hfound : operatorAt? pre (w ++ post) = some ⟨pre, w, post⟩ :=
        operatorAt?_eq_some_iff.2 ⟨rfl, rfl, hw, hpre, hpost⟩
      rw [hat] at hfound
      cases hfound
  | some o =>
      obtain ⟨-, rfl, hw, hpre, hpost⟩ := operatorAt?_eq_some_iff.1 hat
      rw [hpre, hw.operatorLength?_append hpost, Option.map_some]

/-- Passing over the rest of an operator. -/
theorem segments_length (pre x cs : List Char) :
    segments (endsInWord pre) x.length (x ++ cs) = segments (endsInWord (pre ++ x)) 0 cs := by
  induction x generalizing pre with
  | nil => simp
  | cons c x ih =>
      rw [List.length_cons, List.cons_append, segments, ← endsInWord_concat pre c, ih]
      simp

theorem division_from (pre cs : List Char) :
    (segments (endsInWord pre) 0 cs).1 ++ joined (segments (endsInWord pre) 0 cs).2 = cs ∧
      cuts (pre ++ (segments (endsInWord pre) 0 cs).1) (segments (endsInWord pre) 0 cs).2 =
        operatorsFrom pre cs := by
  -- On the length, since the pass goes over an operator at once.
  induction hn : cs.length using Nat.strong_induction_on generalizing pre cs with
  | _ n ih =>
  subst hn
  cases cs with
  | nil => simp [cuts, operatorsFrom]
  | cons c cs =>
      have hlength := operatorLength?_eq pre (c :: cs)
      cases hat : operatorAt? pre (c :: cs) with
      | none =>
          rw [hat, Option.map_none] at hlength
          obtain ⟨hjoined, hcuts⟩ := ih cs.length (by simp) (pre ++ [c]) cs rfl
          rw [endsInWord_concat] at hjoined hcuts
          rw [segments_cons_of_none hlength, operatorsFrom, hat, ← hcuts]
          exact ⟨by simpa using hjoined, by simp⟩
      | some o =>
          obtain ⟨-, e, hw, hs⟩ := operatorAt?_eq_some_iff.1 hat
          obtain ⟨b, w, post⟩ := o
          dsimp only at e hw hs
          rw [hat, Option.map_some] at hlength
          obtain ⟨c', x, rfl⟩ := List.exists_cons_of_ne_nil hw.ne_nil
          rw [List.cons_append, List.cons.injEq] at e
          obtain ⟨rfl, rfl⟩ := e
          obtain ⟨hjoined, hcuts⟩ :=
            ih post.length (by rw [List.length_cons, List.length_append]; omega) (pre ++ c :: x)
              post rfl
          rw [segments_cons_of_some hlength, ← endsInWord_concat pre c, segments_length,
            List.append_assoc, List.singleton_append, List.take_left,
            ← List.cons_append, operatorsFrom_operator hw hs, ← hcuts]
          refine ⟨by simpa using hjoined, ?_⟩
          simp [cuts, hjoined]

/-- **A text is divided at its operators.** -/
theorem division_segments (cs : List Char) :
    Division cs (segments false 0 cs).1 (segments false 0 cs).2 :=
  ⟨(division_from [] cs).1, (division_from [] cs).2⟩

/-! ### Hiding words -/

namespace Used

variable {ks : List Comparator} {pre w post : List Char}

/-- A word that a comparator uses stands alone. -/
theorem standsAlone (hks : ∀ k ∈ ks, k.IsRegular) (h : Used ks pre w post) :
    StandsAlone pre post :=
  ⟨not_endsInWord_of_gap (h.gaps hks).1, not_startsInWord_of_gap (h.gaps hks).2⟩

end Used

namespace Hides

variable {ks : List Comparator} {pre prev u v : List Char}

/-- What is hidden and what stands for it begin with a word character. -/
theorem startsInWord_eq (h : Hides ks [] pre u v) : startsInWord v = startsInWord u := by
  cases h with
  | nil => rfl
  | keep => rfl
  | hide hw =>
      obtain ⟨c, d, rfl, hc, -⟩ := hw.word_eq
      rw [marker_eq]
      exact (isWordChar_of_foldChar (by simp [hc])).symm

/-- What is hidden and what stands for it end in a word character. -/
theorem endsInWord_hide {w : List Char} (hw : Used ks pre w u) (prev : List Char) :
    endsInWord (prev ++ marker) = endsInWord (pre ++ w) := by
  obtain ⟨c, d, rfl, -, hd⟩ := hw.word_eq
  have hword := isWordChar_of_foldChar (c := d) (by simp [hd])
  have hunderscore : isWordChar '_' = true := rfl
  rw [marker_eq]
  simp [endsInWord, hword, hunderscore]

end Hides

/-- **An operator and its image** after words were hidden: it is the same word, and so is the text
around it but for hidden words. -/
structure Occurrence.Shows (o o' : Occurrence) : Prop where
  word_eq : o'.word = o.word
  before : Hides comparators (o.word ++ o.after) [] o.before o'.before
  after : Hides comparators [] (o.before ++ o.word) o.after o'.after

namespace Hides

variable {pre prev u v : List Char}

/-- Where no used word begins, an operator is shown exactly if it is in the given text. -/
theorem shows_operatorAt? {c : Char} (hpre : Hides comparators (c :: u) [] pre prev)
    (h : Hides comparators [] pre (c :: u) (c :: v))
    (hunused : ∀ w rest, c :: u = w ++ rest → ¬ Used comparators pre w rest)
    (hend : endsInWord prev = endsInWord pre) :
    List.Forall₂ Occurrence.Shows (operatorAt? pre (c :: u)).toList
      (operatorAt? prev (c :: v)).toList := by
  cases hat : operatorAt? pre (c :: u) with
  | some o =>
      obtain ⟨rfl, e, hw, hbefore, hafter⟩ := operatorAt?_eq_some_iff.1 hat
      rw [e] at h hpre
      obtain ⟨v', hv', hrest⟩ := h.kept_operator isRegular_of_mem hw (by simpa using hunused _ _ e)
      have hat' : operatorAt? prev (c :: v) = some ⟨prev, o.word, v'⟩ :=
        operatorAt?_eq_some_iff.2
          ⟨rfl, hv', hw, hend.trans hbefore, hrest.startsInWord_eq.trans hafter⟩
      rw [hat']
      exact .cons ⟨rfl, hpre, hrest⟩ .nil
  | none =>
      cases hat' : operatorAt? prev (c :: v) with
      | none => exact .nil
      | some o' =>
          -- what is shown was there
          exfalso
          obtain ⟨-, e, hw, hbefore, hafter⟩ := operatorAt?_eq_some_iff.1 hat'
          rw [e] at h
          obtain ⟨u', hu', -, hrest⟩ := h.shown_front (hw.not_mem rfl (by decide))
          have hsome : operatorAt? pre (c :: u) = some ⟨pre, o'.word, u'⟩ :=
            operatorAt?_eq_some_iff.2
              ⟨rfl, hu', hw, hend.symm.trans hbefore, hrest.startsInWord_eq.symm.trans hafter⟩
          rw [hat] at hsome
          cases hsome

/-- **Hiding words takes them off the list of operators**, and no others. -/
theorem shows_operatorsFrom (h : Hides comparators [] pre u v)
    (hpre : Hides comparators u [] pre prev) (hend : endsInWord prev = endsInWord pre) :
    List.Forall₂ Occurrence.Shows
      ((operatorsFrom pre u).filter fun o => ¬ Used comparators o.before o.word o.after)
      (operatorsFrom prev v) := by
  induction h generalizing prev with
  | nil => exact .nil
  | @keep pre u v c hc h ih =>
      rw [List.append_nil] at hc
      have hat := shows_operatorAt? hpre (.keep (by simpa using hc) h) hc hend
      have hconcat : endsInWord (prev ++ [c]) = endsInWord (pre ++ [c]) := by
        rw [endsInWord_concat, endsInWord_concat]
      have hkept : Hides comparators u [] (pre ++ [c]) (prev ++ [c]) :=
        hpre.append (.keep (by simpa using hc) .nil)
      rw [operatorsFrom, operatorsFrom, List.filter_append]
      refine List.rel_append ?_ (ih hkept hconcat)
      have hunused : (operatorAt? pre (c :: u)).toList.filter
          (fun o => ¬ Used comparators o.before o.word o.after) =
            (operatorAt? pre (c :: u)).toList := by
        refine List.filter_eq_self.2 fun o ho => ?_
        obtain ⟨rfl, e, -⟩ := operatorAt?_eq_some_iff.1 (Option.mem_toList.1 ho)
        simpa using hc _ _ e
      rw [hunused]
      exact hat
  | @hide pre w u v hw h ih =>
      rw [List.append_nil] at hw
      have hhidden : Hides comparators u [] (pre ++ w) (prev ++ marker) :=
        hpre.append (.word (by simpa using hw))
      have hmarker := endsInWord_hide hw prev
      rw [operatorsFrom_marker,
        operatorsFrom_operator hw.isOperator (hw.standsAlone isRegular_of_mem),
        List.filter_cons_of_neg (by simpa using hw)]
      exact ih hhidden hmarker

/-- The operators that are left, place by place. -/
theorem shows_operators (h : Hides comparators [] [] u v) :
    List.Forall₂ Occurrence.Shows
      ((operators u).filter fun o => ¬ Used comparators o.before o.word o.after) (operators v) :=
  h.shows_operatorsFrom .nil rfl

theorem words_operators (h : Hides comparators [] [] u v) :
    (operators v).map (·.word) =
      ((operators u).filter
        fun o => ¬ Used comparators o.before o.word o.after).map (·.word) := by
  have hwords {os os' : List Occurrence} (hs : List.Forall₂ Occurrence.Shows os os') :
      os'.map (·.word) = os.map (·.word) := by
    induction hs with
    | nil => rfl
    | cons hshows _ ih => rw [List.map_cons, List.map_cons, hshows.word_eq, ih]
  exact hwords h.shows_operators

end Hides

end Criteria

end EventRules

/-
**Splitting loses and invents no text.**

A protected text is divided at its operators.  Each piece is restored and trimmed for itself, and a
stretch that is blank is dropped.  Every cut is at an end of an operator that stands alone, so none
is inside a marker: the pieces restored one by one are the restored text, but for white space.

The pieces that remain are a list of gaps, each with the stretch that ends it, and perhaps operators
at the end with no stretch after them.  A gap may have any number of operators; its stretch becomes
a clause behind the last of them.

Main definitions:

* `Text.dropSpace` — a text without its white space;
* `Criteria.Gap`, `Criteria.Gap.fragments`, `Criteria.Gap.clause` — **the operators before a
  stretch**, as pieces and as a clause.

Main results:

* `Criteria.Division.restoreChars_eq` — no cut is inside a marker;
* `Criteria.clausesFrom_gaps` — one clause for each gap;
* `Criteria.split_gaps` — **the clauses are the stretches with their operators**.
-/

import EventRules.Proofs.Restoring

set_option relaxedAutoImplicit false
set_option autoImplicit false

namespace EventRules

/-! ### Without white space -/

namespace Text

/-- A text without its white space. -/
def dropSpace (cs : List Char) : List Char :=
  cs.filter fun c => !isSpace c

@[simp] theorem dropSpace_nil : dropSpace [] = [] := rfl

@[simp] theorem dropSpace_append (x y : List Char) :
    dropSpace (x ++ y) = dropSpace x ++ dropSpace y :=
  List.filter_append x y

theorem dropSpace_dropWhile (cs : List Char) : dropSpace (cs.dropWhile isSpace) = dropSpace cs := by
  induction cs with
  | nil => rfl
  | cons c cs ih =>
      by_cases hc : isSpace c = true
      · rw [List.dropWhile_cons_of_pos hc, ih]
        simp [dropSpace, hc]
      · rw [List.dropWhile_cons_of_neg hc]

@[simp] theorem dropSpace_trimChars (cs : List Char) : dropSpace (trimChars cs) = dropSpace cs := by
  have hreverse (x : List Char) : dropSpace x.reverse = (dropSpace x).reverse :=
    List.filter_reverse
  rw [trimChars, trimRightChars, hreverse, dropSpace_dropWhile, hreverse, List.reverse_reverse,
    trimLeftChars, dropSpace_dropWhile]

end Text

namespace Criteria

open EventRules.Text (dropSpace)

/-! ### Pieces of a divided text -/

theorem dropSpace_tidy (cs : List Char) : dropSpace (tidy cs) = dropSpace (restoreChars cs) :=
  Text.dropSpace_trimChars (restoreChars cs)

theorem dropSpace_stretchFragment (cs : List Char) :
    dropSpace ((stretchFragment cs).flatMap Fragment.text) = dropSpace (restoreChars cs) := by
  rw [← dropSpace_tidy, stretchFragment]
  split
  · next hempty => rw [List.isEmpty_iff.1 hempty, List.flatMap_nil]
  · rw [List.flatMap_singleton, Fragment.text]

/-- Pieces are restored one by one, if the operators between them stand alone. -/
theorem restoreChars_joined {pre x : List Char} {rest : List (List Char × List Char)}
    (hx : x <:+ pre) (h : ∀ o ∈ cuts pre rest, StandsAlone o.before o.after) :
    restoreChars (x ++ joined rest) =
      restoreChars x ++ rest.flatMap fun r => restoreChars r.1 ++ restoreChars r.2 := by
  induction rest generalizing pre x with
  | nil => simp
  | cons r rest ih =>
      obtain ⟨op, stretch⟩ := r
      rw [cuts, List.forall_mem_cons] at h
      obtain ⟨⟨hbefore, hafter⟩, h⟩ := h
      obtain ⟨y, rfl⟩ := hx
      have hstretch : stretch <:+ y ++ x ++ (op ++ stretch) :=
        (List.suffix_append op stretch).trans (List.suffix_append _ _)
      rw [joined_cons, List.append_assoc, restoreChars_append (.inl (endsInWord_of_append hbefore)),
        restoreChars_append (.inr hafter), ih hstretch h, List.flatMap_cons, List.append_assoc]

theorem map_word_cuts (pre : List Char) (rest : List (List Char × List Char)) :
    (cuts pre rest).map (·.word) = rest.map (·.1) := by
  induction rest generalizing pre with
  | nil => rfl
  | cons r rest ih => rw [cuts, List.map_cons, ih, List.map_cons]

namespace Division

variable {cs first : List Char} {rest : List (List Char × List Char)}

theorem standsIn (h : Division cs first rest) : ∀ o ∈ cuts first rest, o.StandsIn cs := by
  intro o ho
  rw [h.cuts_eq] at ho
  exact mem_operators.1 ho

/-- **No cut is inside a marker.** -/
theorem restoreChars_eq (h : Division cs first rest) :
    restoreChars cs =
      restoreChars first ++ rest.flatMap fun r => restoreChars r.1 ++ restoreChars r.2 := by
  rw [← h.joined_eq]
  exact restoreChars_joined List.suffix_rfl fun o ho => (h.standsIn o ho).alone

theorem isOperator (h : Division cs first rest) : ∀ r ∈ rest, IsOperator r.1 := by
  intro r hr
  have hword : r.1 ∈ (cuts first rest).map (·.word) := by
    rw [map_word_cuts]
    exact List.mem_map_of_mem hr
  obtain ⟨o, ho, ho'⟩ := List.mem_map.1 hword
  exact ho' ▸ (h.standsIn o ho).isOperator

end Division

theorem fragments_eq (cs : List Char) :
    ∃ first rest, Division cs first rest ∧
      fragments cs =
        stretchFragment first ++ rest.flatMap fun r => .operator r.1 :: stretchFragment r.2 := by
  have hdivision := division_segments cs
  refine ⟨_, _, hdivision, ?_⟩
  simp only [fragments]
  congr 1
  refine List.flatMap_congr fun r hr => ?_
  rw [(hdivision.isOperator r hr).tidy]

/-- **The pieces are the restored text**, but for white space. -/
theorem dropSpace_fragments (cs : List Char) :
    dropSpace ((fragments cs).flatMap Fragment.text) = dropSpace (restoreChars cs) := by
  have hrest (rest : List (List Char × List Char)) :
      dropSpace ((rest.flatMap fun r => .operator (tidy r.1) :: stretchFragment r.2).flatMap
          Fragment.text) =
        dropSpace (rest.flatMap fun r => restoreChars r.1 ++ restoreChars r.2) := by
    induction rest with
    | nil => rfl
    | cons r rest ih =>
        simp only [List.flatMap_cons, List.flatMap_append, List.cons_append, Fragment.text,
          Text.dropSpace_append, dropSpace_tidy, dropSpace_stretchFragment, ih, List.append_assoc]
  rw [(division_segments cs).restoreChars_eq, Text.dropSpace_append, ← hrest,
    ← dropSpace_stretchFragment]
  simp only [fragments, List.flatMap_append, Text.dropSpace_append]

/-! ### Gaps -/

/-- **A gap** between two stretches, with the stretch after it. -/
structure Gap where
  /-- The operators in the gap, in order. -/
  operators : List (List Char)
  /-- The stretch after them. -/
  stretch : List Char

/-- The pieces of a gap. -/
def Gap.fragments (g : Gap) : List Fragment :=
  g.operators.map .operator ++ [.stretch g.stretch]

/-- **The clause of a gap**: the stretch behind the last operator, if there is one. -/
def Gap.clause (g : Gap) : List Char :=
  match g.operators.getLast? with
  | some op => op ++ ' ' :: g.stretch
  | none => g.stretch

/-- Any pieces are gaps, and operators without a stretch after them. -/
theorem exists_gaps (fs : List Fragment) :
    ∃ (gaps : List Gap) (dangling : List (List Char)),
      fs = gaps.flatMap Gap.fragments ++ dangling.map .operator := by
  induction fs with
  | nil => exact ⟨[], [], rfl⟩
  | cons f fs ih =>
      obtain ⟨gaps, dangling, rfl⟩ := ih
      cases f with
      | stretch t => exact ⟨⟨[], t⟩ :: gaps, dangling, by simp [Gap.fragments]⟩
      | operator op =>
          cases gaps with
          | nil => exact ⟨[], op :: dangling, by simp⟩
          | cons g gaps =>
              exact ⟨⟨op :: g.operators, g.stretch⟩ :: gaps, dangling, by simp [Gap.fragments]⟩

/-- Of several operators the last one is pending. -/
theorem clausesFrom_operators (pending : Option (List Char)) (ops : List (List Char))
    (fs : List Fragment) :
    clausesFrom pending (ops.map .operator ++ fs) = clausesFrom (ops.getLast?.or pending) fs := by
  induction ops generalizing pending with
  | nil => rfl
  | cons op ops ih =>
      rw [List.map_cons, List.cons_append, clausesFrom, ih, List.getLast?_cons]
      cases ops.getLast? <;> rfl

/-- **One clause for each gap.** -/
theorem clausesFrom_gaps (gaps : List Gap) (dangling : List (List Char)) :
    clausesFrom none (gaps.flatMap Gap.fragments ++ dangling.map .operator) =
      gaps.map Gap.clause := by
  induction gaps with
  | nil =>
      have hdangling := clausesFrom_operators none dangling []
      rw [List.append_nil] at hdangling
      simp [hdangling, clausesFrom]
  | cons g gaps ih =>
      rw [List.flatMap_cons, Gap.fragments, List.append_assoc, List.append_assoc,
        clausesFrom_operators, Option.or_none, List.singleton_append, List.map_cons, Gap.clause]
      cases g.operators.getLast? with
      | none => rw [clausesFrom, ih]
      | some op => rw [clausesFrom, ih]

/-! ### A description -/

/-- **The clauses are the stretches with their operators**, and no text is lost.  The pieces of a
description are the operators of its protected text and the stretches between them that are not
blank, and but for white space they are the restored text.  They form gaps, each of which has one
clause; what is dropped are operators with another one after them, or with no stretch after them. -/
theorem split_gaps (description : String) :
    let cs := protectChars (Text.unescapeChars description.toList)
    ∃ (first : List Char) (rest : List (List Char × List Char)) (gaps : List Gap)
      (dangling : List (List Char)),
      Division cs first rest ∧
        fragments cs =
          stretchFragment first ++ (rest.flatMap fun r => .operator r.1 :: stretchFragment r.2) ∧
        dropSpace ((fragments cs).flatMap Fragment.text) = dropSpace (restoreChars cs) ∧
        fragments cs = gaps.flatMap Gap.fragments ++ dangling.map .operator ∧
        split description = gaps.map fun g => String.ofList g.clause := by
  intro cs
  obtain ⟨first, rest, hdivision, hfragments⟩ := fragments_eq cs
  obtain ⟨gaps, dangling, hgaps⟩ := exists_gaps (fragments cs)
  refine ⟨first, rest, gaps, dangling, hdivision, hfragments, dropSpace_fragments cs, hgaps, ?_⟩
  rw [split, hgaps, clausesFrom_gaps, List.map_map]
  rfl

/-- Operators at the front, in a row and at the end, and markers in the text. -/
example : split "and a __OR__ b or AND __or__ is equal to  or empty &#33; or" =
    ["and a or b", "AND __or__ is equal to  or empty !"] := by
  decide +kernel

end Criteria

end EventRules

/-
**Conditions that cannot be resolved keep their text.**

A clause is divided at the phrase of its comparison.  What stands before it is a word that
introduces the clause, the block's own if there is none, and the left side; what stands after it is
the right side.  If neither side can be resolved, both keep the text that the clause gives them, and
the line is put together again from the same pieces: the word and the phrase in their usual
spelling, one blank between any two.

So the line says what the clause says, but for white space and letter case.  Shown once more it does
not change.  The phrase is where it was, since neither the introducing word nor the left side
contains another one; and what stands before it has one introducing word, which is found again.

Main definitions:

* `Introduced` — **a clause begins with one of the words that introduce clauses**;
* `Unresolved`, `OperandsUnresolved` — **operands that keep the text they are given**;
* `lineChars` — a condition put together from its pieces.

Main results:

* `splitKeyword_cases`, `splitKeyword_again` — the introducing word;
* `conditionText_eq_lineChars` — an unresolved condition is put together from the pieces;
* `conditionText_unresolved` — **a condition that cannot be resolved keeps its text**.
-/

import EventRules.Proofs.Finding
import EventRules.Proofs.Protecting
import EventRules.Rule.Element

set_option relaxedAutoImplicit false
set_option autoImplicit false

namespace EventRules

open EventRules.Text (IsTrimmed foldChar isSpace plain trimChars)

/-! ### Trimming -/

namespace Text

theorem trimChars_concat_blank (cs : List Char) : trimChars (cs ++ [' ']) = trimChars cs := by
  have hspace : isSpace ' ' = true := rfl
  rw [trimChars, trimChars, trimLeftChars, trimLeftChars, List.dropWhile_append]
  split
  · next hempty => simp [List.isEmpty_iff.1 hempty, trimRightChars, hspace]
  · simp [trimRightChars, hspace]

theorem IsTrimmed.append {x y : List Char} (hx : x.head?.any isSpace = false) (hx' : x ≠ [])
    (hy : y.getLast?.any isSpace = false) (hy' : y ≠ []) (z : List Char) :
    IsTrimmed (x ++ (z ++ y)) := by
  constructor
  · rwa [List.head?_append_of_ne_nil x hx']
  · rwa [← List.append_assoc, List.getLast?_append_of_ne_nil _ hy']

end Text

/-! ### Introducing words -/

/-- The text is empty or begins with a blank. -/
def BlankFront (cs : List Char) : Prop :=
  ∀ c ∈ cs.head?, c = ' ' ∨ c = '\t'

/-- **The text begins with one of the words that introduce clauses**, in any letter case, and a
blank or nothing follows it. -/
def Introduced (cs : List Char) : Prop :=
  ∃ w ∈ clauseKeywords, ∃ x y, cs = x ++ y ∧ x.map foldChar = w.map foldChar ∧ BlankFront y

theorem afterKeyword?_eq_some_iff {w cs rest : List Char} :
    afterKeyword? w cs = some rest ↔
      ∃ x y, cs = x ++ y ∧ x.map foldChar = w.map foldChar ∧ BlankFront y ∧
        rest = trimChars y := by
  constructor
  · intro h
    rw [afterKeyword?] at h
    split at h
    · cases h
    · next n hn =>
        obtain ⟨x, y, rfl, hx, rfl⟩ := Phrase.word_of_wordLength? hn
        rw [List.drop_left] at h
        refine ⟨x, y, rfl, hx, ?_⟩
        cases y with
        | nil =>
            obtain rfl := Option.some.inj h
            exact ⟨by simp [BlankFront], rfl⟩
        | cons c y =>
            dsimp only at h
            split at h
            · next hc => exact ⟨by simpa [BlankFront] using hc, (Option.some.inj h).symm⟩
            · cases h
  · rintro ⟨x, y, rfl, hx, hy, rfl⟩
    rw [afterKeyword?, Phrase.wordLength?_append hx]
    dsimp only
    rw [List.drop_left]
    cases y with
    | nil => rfl
    | cons c y =>
        have hc : c = ' ' ∨ c = '\t' := hy c (by simp)
        exact if_pos hc

/-- A way to write an introducing word has no white space in it. -/
theorem not_isSpace_of_keyword {w x : List Char} (hw : w ∈ clauseKeywords)
    (hx : x.map foldChar = w.map foldChar) : ∀ c ∈ x, isSpace c = false := by
  have hletters : ∀ w ∈ clauseKeywords, (w.map foldChar).all (!isSpace ·) = true := by
    decide +kernel
  intro c hc
  have hmem : foldChar c ∈ w.map foldChar := hx ▸ List.mem_map_of_mem hc
  have hletter := List.all_eq_true.1 (hletters w hw) _ hmem
  exact Text.isSpace_of_foldChar (by simpa using hletter) rfl

theorem plain_of_keyword {w x : List Char} (hw : w ∈ clauseKeywords)
    (hx : x.map foldChar = w.map foldChar) : plain x = w.map foldChar := by
  have hspace : Text.dropSpace x = x :=
    List.filter_eq_self.2 fun c hc => by simp [not_isSpace_of_keyword hw hx c hc]
  rw [plain, hspace, hx]

/-- A text begins with at most one introducing word. -/
theorem keyword_unique {w w' x x' y y' : List Char} (hw : w ∈ clauseKeywords)
    (hw' : w' ∈ clauseKeywords) (hx : x.map foldChar = w.map foldChar)
    (hx' : x'.map foldChar = w'.map foldChar) (hy : BlankFront y) (hy' : BlankFront y')
    (e : x ++ y = x' ++ y') : w = w' ∧ y = y' := by
  have htake {w x y : List Char} (hw : w ∈ clauseKeywords) (hx : x.map foldChar = w.map foldChar)
      (hy : BlankFront y) : (x ++ y).takeWhile (!isSpace ·) = x := by
    have hletters : ∀ c ∈ x, (!isSpace c) = true := fun c hc => by
      simp [not_isSpace_of_keyword hw hx c hc]
    rw [List.takeWhile_append_of_pos hletters]
    cases y with
    | nil => simp
    | cons c y =>
        have hc : isSpace c = true := by
          rcases hy c (by simp) with rfl | rfl <;> rfl
        simp [hc]
  have hdistinct : ∀ w ∈ clauseKeywords, ∀ w' ∈ clauseKeywords,
      w.map foldChar = w'.map foldChar → w = w' := by
    decide +kernel
  have hxx : x = x' := by rw [← htake hw hx hy, e, htake hw' hx' hy']
  subst hxx
  exact ⟨hdistinct w hw w' hw' (hx.symm.trans hx'), List.append_cancel_left e⟩

/-- An introducing word is found. -/
theorem splitKeyword_of_word (block : BlockKeyword) {w x y : List Char} (hw : w ∈ clauseKeywords)
    (hx : x.map foldChar = w.map foldChar) (hy : BlankFront y) :
    splitKeyword block (x ++ y) = (String.ofList w, String.ofList (trimChars y)) := by
  have hfound : (clauseKeywords.findSome? fun v => (afterKeyword? v (x ++ y)).map (v, ·)) =
      some (w, trimChars y) := by
    cases hsome : clauseKeywords.findSome? fun v => (afterKeyword? v (x ++ y)).map (v, ·) with
    | none =>
        have hnone := List.findSome?_eq_none_iff.1 hsome w hw
        rw [afterKeyword?_eq_some_iff.2 ⟨x, y, rfl, hx, hy, rfl⟩] at hnone
        cases hnone
    | some r =>
        obtain ⟨v, hv, hr⟩ := List.exists_of_findSome?_eq_some hsome
        obtain ⟨rest, hrest, rfl⟩ := Option.map_eq_some_iff.1 hr
        obtain ⟨x', y', e, hx', hy', rfl⟩ := afterKeyword?_eq_some_iff.1 hrest
        obtain ⟨rfl, rfl⟩ := keyword_unique hw hv hx hx' hy hy' e
        rfl
  rw [splitKeyword, hfound]

theorem splitKeyword_of_not_introduced (block : BlockKeyword) {cs : List Char}
    (h : ¬ Introduced cs) : splitKeyword block cs = (block.text, String.ofList cs) := by
  have hnone : (clauseKeywords.findSome? fun v => (afterKeyword? v cs).map (v, ·)) = none := by
    refine List.findSome?_eq_none_iff.2 fun v hv => Option.map_eq_none_iff.2 ?_
    by_contra hsome
    obtain ⟨rest, hrest⟩ := Option.ne_none_iff_exists'.1 hsome
    obtain ⟨x, y, e, hx, hy, -⟩ := afterKeyword?_eq_some_iff.1 hrest
    exact h ⟨v, hv, x, y, e, hx, hy⟩
  rw [splitKeyword, hnone]

theorem text_mem_clauseKeywords (block : BlockKeyword) : block.text.toList ∈ clauseKeywords := by
  cases block <;> decide +kernel

/-- **The introducing word of a clause**, and what follows it. -/
theorem splitKeyword_cases (block : BlockKeyword) {cs : List Char} (hcs : IsTrimmed cs) :
    ∃ w ∈ clauseKeywords, ∃ rest,
      splitKeyword block cs = (String.ofList w, String.ofList rest) ∧ IsTrimmed rest ∧
        rest <:+: cs ∧ (Introduced cs → plain (w ++ rest) = plain cs) ∧
        (¬ Introduced cs → w = block.text.toList ∧ rest = cs) := by
  by_cases hi : Introduced cs
  · have hi' := hi
    obtain ⟨w, hw, x, y, rfl, hx, hy⟩ := hi'
    refine ⟨w, hw, trimChars y, splitKeyword_of_word block hw hx hy, Text.isTrimmed_trimChars y,
      (Text.trimChars_isInfix y).trans (List.suffix_append x y).isInfix, fun _ => ?_,
      fun hnot => absurd hi hnot⟩
    rw [Text.plain_append, Text.plain_append, Text.plain_trimChars, plain_of_keyword hw hx,
      plain_of_keyword hw rfl]
  · refine ⟨block.text.toList, text_mem_clauseKeywords block, cs, ?_, hcs, List.infix_rfl,
      fun hyes => absurd hyes hi, fun _ => ⟨rfl, rfl⟩⟩
    rw [splitKeyword_of_not_introduced block hi, String.ofList_toList]

/-- **The introducing word is found again**, in its usual spelling. -/
theorem splitKeyword_again (block : BlockKeyword) {w rest : List Char} (hw : w ∈ clauseKeywords)
    (hrest : IsTrimmed rest) :
    splitKeyword block (trimChars (w ++ ' ' :: (rest ++ [' ']))) =
      (String.ofList w, String.ofList rest) := by
  have hne : ∀ w ∈ clauseKeywords, w ≠ [] := by decide +kernel
  have htrimmed : ∀ w ∈ clauseKeywords, IsTrimmed w := by decide +kernel
  have hblank := Text.trimChars_concat_blank (w ++ ' ' :: rest)
  rw [List.append_assoc, List.cons_append] at hblank
  rw [hblank]
  by_cases hnil : rest = []
  · subst hnil
    have hword := splitKeyword_of_word block hw rfl (y := []) (by simp [BlankFront])
    rw [List.append_nil] at hword
    rw [Text.trimChars_concat_blank, (htrimmed w hw).trimChars, hword]
    rfl
  · have hall : IsTrimmed (w ++ ([' '] ++ rest)) :=
      .append (htrimmed w hw).1 (hne w hw) hrest.2 hnil [' ']
    rw [List.singleton_append] at hall
    have hword := splitKeyword_of_word block hw rfl (y := ' ' :: rest) (by simp [BlankFront])
    rw [hall.trimChars, hword, Text.trimChars_cons, hrest.trimChars]

/-! ### Operands that are not resolved -/

section

variable {σ : Type} {source : Option (Source σ)} {scope : Scope}

/-- **An operand that keeps the text it is given**: there is none, or it is a literal, or nothing is
known about the member or variable that it is. -/
inductive Unresolved (source : Option (Source σ)) (scope : Scope) (shelf : Shelf σ) :
    Operand → Prop
  | absent : Unresolved source scope shelf ⟨.unknown, none⟩
  | literal {node : Option Node} : Unresolved source scope shelf ⟨.literal, node⟩
  | member {n : Node} (h : (member? source scope n shelf).1 = none) :
      Unresolved source scope shelf ⟨.member, some n⟩
  | eventVariable {n : Node} (h : scope.vars.resolve? (n.attr ["idVariable"]) = none) :
      Unresolved source scope shelf ⟨.eventVariable, some n⟩

/-- The shelf after an operand has been looked up. -/
def shelfAfter (source : Option (Source σ)) (scope : Scope) (op : Operand) (shelf : Shelf σ) :
    Shelf σ :=
  match op.kind, op.node with
  | .member, some n => (member? source scope n shelf).2
  | _, _ => shelf

theorem Unresolved.resolveOperand_eq {shelf : Shelf σ} {op : Operand}
    (h : Unresolved source scope shelf op) (text : String) (decode : Bool)
    (htext : decode = true → '&' ∉ text.toList) :
    resolveOperand source scope op text decode shelf =
      (text, shelfAfter source scope op shelf) := by
  cases h with
  | absent => rfl
  | literal =>
      cases decode with
      | false => rfl
      | true =>
          have hplain : Text.unescape text = text := by
            rw [Text.unescape, Text.unescapeChars_of_not_mem (htext rfl), String.ofList_toList]
          exact congrArg (·, shelf) hplain
  | @member n h =>
      cases hm : member? source scope n shelf with
      | mk found shelf' =>
          rw [hm] at h
          simp only [resolveOperand, shelfAfter, hm, bind, StateT.bind]
          subst h
          rfl
  | @eventVariable n h =>
      simp only [resolveOperand, h]
      rfl

/-- The left side of a comparison. -/
def subjectOperand (node : Node) : Operand :=
  Operand.inside (node.child? "zSubject")

/-- The right side of a comparison. -/
def predicateOperand (node : Node) : Operand :=
  Operand.inside (node.child? "zPredicate")

/-- **Neither side of a comparison can be resolved.**  The right side is looked up after the
left one. -/
structure OperandsUnresolved (source : Option (Source σ)) (scope : Scope) (node : Node)
    (shelf : Shelf σ) : Prop where
  subject : Unresolved source scope shelf (subjectOperand node)
  predicate : Unresolved source scope (shelfAfter source scope (subjectOperand node) shelf)
    (predicateOperand node)

/-! ### The line -/

/-- What a condition ends with. -/
def tailChars (right : List Char) : List Char :=
  if right = [] then [] else ' ' :: right

/-- **A condition put together**: the introducing word, the left side, the phrase of the
comparison, and the right side if there is any. -/
def lineChars (w left : List Char) (c : Comparison) (right : List Char) : List Char :=
  w ++ ' ' :: (left ++ ' ' :: (c.phrase.toList ++ tailChars right))

theorem lineChars_eq (w left : List Char) (c : Comparison) (right : List Char) :
    lineChars w left c right =
      w ++ ' ' :: (left ++ [' ']) ++ (c.phrase.toList ++ tailChars right) := by
  simp [lineChars]

theorem trimChars_tailChars {right : List Char} (h : IsTrimmed right) :
    trimChars (tailChars right) = right := by
  rw [tailChars]
  split
  · next hnil => rw [hnil]; rfl
  · rw [Text.trimChars_cons, h.trimChars]

theorem plain_tailChars (right : List Char) : plain (tailChars right) = plain right := by
  rw [tailChars]
  split
  · next hnil => rw [hnil]
  · exact Text.plain_cons_of_space rfl right

theorem plain_lineChars (w left : List Char) (c : Comparison) (right : List Char) :
    plain (lineChars w left c right) =
      plain (w ++ left) ++ (plain c.phrase.toList ++ plain right) := by
  have hblank (cs : List Char) : plain (' ' :: cs) = plain cs := Text.plain_cons_of_space rfl cs
  simp only [lineChars, Text.plain_append, hblank, plain_tailChars, List.append_assoc]

theorem dropTrailingSpaces_of_last {cs : List Char}
    (h : cs.getLast?.any (· == ' ') = false) (blanks : Nat) :
    dropTrailingSpaces (String.ofList (cs ++ List.replicate blanks ' ')) = String.ofList cs := by
  have hdrop : (List.replicate blanks ' ' ++ cs.reverse).dropWhile (· == ' ') = cs.reverse := by
    rw [List.dropWhile_append_of_pos (by simp)]
    exact Text.dropWhile_of_head (by simpa using h)
  rw [dropTrailingSpaces, String.toList_ofList, List.reverse_append, List.reverse_replicate, hdrop,
    List.reverse_reverse]

theorem dropTrailingSpaces_eq (w left : String) (c : Comparison) {right : List Char}
    (h : IsTrimmed right) :
    dropTrailingSpaces (w ++ " " ++ left ++ " " ++ c.phrase ++ " " ++ String.ofList right) =
      String.ofList (lineChars w.toList left.toList c right) := by
  have hphrase : c.phrase.toList.getLast?.any (· == ' ') = false := by
    cases c <;> decide +kernel
  have hne : c.phrase.toList ≠ [] := by
    cases c <;> decide +kernel
  by_cases hnil : right = []
  · subst hnil
    have hlast : (lineChars w.toList left.toList c []).getLast?.any (· == ' ') = false := by
      have hsplit : lineChars w.toList left.toList c [] =
          (w.toList ++ ' ' :: (left.toList ++ [' '])) ++ c.phrase.toList := by
        simp [lineChars, tailChars]
      rwa [hsplit, List.getLast?_append_of_ne_nil _ hne]
    rw [← dropTrailingSpaces_of_last hlast 1]
    congr 1
    refine String.toList_inj.1 ?_
    simp [lineChars, tailChars]
  · have hright : right.getLast?.any (· == ' ') = false := by
      rw [List.getLast?_eq_some_getLast hnil, Option.any_some, beq_eq_false_iff_ne]
      intro hblank
      have hspace := h.2
      rw [List.getLast?_eq_some_getLast hnil, Option.any_some, hblank] at hspace
      cases hspace
    have hlast : (lineChars w.toList left.toList c right).getLast?.any (· == ' ') = false := by
      have hsplit : lineChars w.toList left.toList c right =
          (w.toList ++ ' ' :: (left.toList ++ ' ' :: (c.phrase.toList ++ [' ']))) ++ right := by
        simp [lineChars, tailChars, hnil]
      rwa [hsplit, List.getLast?_append_of_ne_nil _ hnil]
    rw [← dropTrailingSpaces_of_last hlast 0]
    congr 1
    refine String.toList_inj.1 ?_
    simp [lineChars, tailChars, hnil]

/-- The introducing word and the blanks around the left side add no occurrence of the phrase. -/
theorem phrase_not_isInfix {c : Comparison} {w left : List Char} (hw : w ∈ clauseKeywords)
    (hleft : ∀ x, Phrase.Matches c.pattern x → ¬ x <:+: left) :
    ∀ x, Phrase.Matches c.pattern x → ¬ x <:+: w ++ ' ' :: (left ++ [' ']) := by
  have hletters : ∀ w ∈ clauseKeywords, ∀ t ∈ (w ++ [' ']).tails,
      (t.map foldChar)[0]? = some 'i' → (t.map foldChar)[1]?.any (· != 's') = true := by
    decide +kernel
  intro x hx
  have hright : ¬ x <:+: left ++ [' '] := by
    intro hin
    rcases List.infix_concat_iff.1 hin with ⟨y, hy⟩ | hin
    · -- The phrase does not end in a blank.
      have hblank : Phrase.endsInGap (y ++ x) = true := by rw [hy]; simp [Phrase.isGapChar]
      rw [Phrase.endsInGap, List.getLast?_append_of_ne_nil _ (Comparison.ne_nil hx),
        ← Phrase.endsInGap, Comparison.not_endsInGap hx] at hblank
      cases hblank
    · exact hleft x hx hin
  rintro ⟨b, a, e⟩
  have e' : (w ++ [' ']) ++ (left ++ [' ']) = b ++ (x ++ a) := by simpa using e.symm
  rcases List.append_eq_append_iff.1 e' with ⟨t, -, ht⟩ | ⟨t, ht, hrest⟩
  · exact hright ⟨t, a, by simp [ht]⟩
  · -- No introducing word has the letters *is* in it.
    obtain ⟨i, s, y, rfl, hi, hs, -⟩ := Comparison.begins hx
    rcases t with _ | ⟨d, _ | ⟨d', t⟩⟩
    · exact hright ⟨[], a, by simpa using hrest⟩
    · obtain rfl : d = i := by simpa using (List.cons.inj hrest).1.symm
      have hmem : [d] ∈ (w ++ [' ']).tails := by rw [ht]; simp [List.mem_tails]
      simpa using hletters w hw [d] hmem (by simp [hi])
    · obtain ⟨rfl, hrest'⟩ := List.cons.inj hrest
      obtain ⟨rfl, -⟩ := List.cons.inj hrest'
      have hmem : i :: s :: t ∈ (w ++ [' ']).tails := by
        rw [ht, List.mem_tails]
        exact List.suffix_append b _
      simpa [hs] using hletters w hw (i :: s :: t) hmem (by simp [hi])

/-- **A condition that cannot be resolved is put together from its pieces.** -/
theorem conditionText_eq_lineChars {block : BlockKeyword} {clause : String} {node : Node}
    {shelf : Shelf σ} {before m after w left : List Char} {c : Comparison}
    (hc : Comparison.ofCode (node.attr ["eCompType"]) = c)
    (hfirst : Phrase.FirstMatch c.pattern clause.toList before m after)
    (hword : splitKeyword block (trimChars before) = (String.ofList w, String.ofList left))
    (hafter : '&' ∉ after) (h : OperandsUnresolved source scope node shelf) :
    (conditionText source scope block clause node shelf).1 =
      String.ofList (lineChars w left c (trimChars after)) := by
  subst hc
  have hsplit := hfirst.split?_eq (Comparison.spaced _) (Comparison.ends_in_letter _)
  have hright : '&' ∉ (String.ofList (trimChars after)).toList := by
    rw [String.toList_ofList]
    exact fun hmem => hafter ((Text.trimChars_isInfix after).subset hmem)
  have hsubject := h.subject.resolveOperand_eq (String.ofList left) false (by simp)
  have hpredicate := h.predicate.resolveOperand_eq _ true fun _ => hright
  rw [subjectOperand] at hsubject hpredicate
  rw [predicateOperand] at hpredicate
  have hline := dropTrailingSpaces_eq (String.ofList w) (String.ofList left)
    (Comparison.ofCode (node.attr ["eCompType"])) (Text.isTrimmed_trimChars after)
  rw [String.toList_ofList, String.toList_ofList] at hline
  rw [← hline]
  simp only [conditionText, hsplit, hword, bind, StateT.bind, hsubject, hpredicate]
  rfl

/-- **A condition that cannot be resolved keeps its text.**  A clause without the phrase of its
comparison stays as it is.  Otherwise it is divided at the first occurrence of the phrase; if
neither side can be resolved and no reference stands after the phrase, then the line begins with an
introducing word, it is the clause but for white space and letter case, with the word of the block
in front if the clause has no introducing word, and shown once more it does not change. -/
theorem conditionText_unresolved (source : Option (Source σ)) (scope : Scope)
    (block : BlockKeyword) (clause : String) (node : Node) (shelf : Shelf σ) :
    let pattern := (Comparison.ofCode (node.attr ["eCompType"])).pattern
    ((∀ b x a, clause.toList = b ++ (x ++ a) → ¬ Phrase.Matches pattern x) →
        conditionText source scope block clause node shelf = (clause, shelf)) ∧
      ((∃ b x a, clause.toList = b ++ (x ++ a) ∧ Phrase.Matches pattern x) →
        ∃ before m after, Phrase.FirstMatch pattern clause.toList before m after ∧
          ('&' ∉ after → OperandsUnresolved source scope node shelf →
            let line := (conditionText source scope block clause node shelf).1
            (∃ w ∈ clauseKeywords, w ++ [' '] <+: line.toList) ∧
              (Introduced (trimChars before) → plain line.toList = plain clause.toList) ∧
              (¬ Introduced (trimChars before) →
                plain line.toList = plain (block.text.toList ++ clause.toList)) ∧
              ∀ shelf', OperandsUnresolved source scope node shelf' →
                (conditionText source scope block line node shelf').1 = line)) := by
  intro pattern
  constructor
  · intro hnone
    have hsplit : pattern.split? clause.toList = none := Phrase.split?_eq_none hnone
    simp only [conditionText, pattern] at hsplit ⊢
    rw [hsplit]
    rfl
  · rintro ⟨b, x, a, e, hx⟩
    obtain ⟨before, m, after, hfirst⟩ := Phrase.exists_firstMatch e hx
    refine ⟨before, m, after, hfirst, fun hafter h => ?_⟩
    obtain ⟨w, hw, left, hword, hleft, hinside, hintroduced, hblock⟩ :=
      splitKeyword_cases block (Text.isTrimmed_trimChars before)
    have hline := conditionText_eq_lineChars rfl hfirst hword hafter h
    have hright := Text.isTrimmed_trimChars after
    have hphrase := Comparison.plain_of_matches (Comparison.matches_phrase _) hfirst.isMatch
    have hclause : plain clause.toList = plain before ++ (plain m ++ plain after) := by
      rw [hfirst.text_eq, Text.plain_append, Text.plain_append]
    rw [hline]
    simp only [String.toList_ofList, plain_lineChars, hphrase, Text.plain_trimChars]
    refine ⟨⟨w, hw, ?_⟩, fun hi => ?_, fun hi => ?_, fun shelf' h' => ?_⟩
    · have hfront : w ++ [' '] <+: w ++ ' ' :: (left ++ [' ']) := ⟨left ++ [' '], by simp⟩
      rw [lineChars_eq]
      exact hfront.trans (List.prefix_append _ _)
    · rw [hintroduced hi, Text.plain_trimChars, hclause]
    · obtain ⟨rfl, rfl⟩ := hblock hi
      rw [Text.plain_append, Text.plain_append, Text.plain_trimChars, hclause, List.append_assoc]
    · -- The left side is part of what stands before the first occurrence of the phrase.
      have hnone : ∀ x, Phrase.Matches pattern x → ¬ x <:+: left := fun x hx hin =>
        hfirst.not_infix_before hx (Comparison.ne_nil hx)
          ((hin.trans hinside).trans (Text.trimChars_isInfix before))
      have hagain := Comparison.firstMatch_append (phrase_not_isInfix hw hnone)
        (tailChars (trimChars after))
      rw [← lineChars_eq, ← String.toList_ofList (l := lineChars _ _ _ _)] at hagain
      have htail : '&' ∉ tailChars (trimChars after) := by
        have hmem : '&' ∉ trimChars after := fun hmem =>
          hafter ((Text.trimChars_isInfix after).subset hmem)
        rw [tailChars]
        split <;> simp [hmem]
      have hresult := conditionText_eq_lineChars rfl hagain (splitKeyword_again block hw hleft)
        htail h'
      rw [hresult, trimChars_tailChars hright]

/-- A keyword in capitals, a tab and a line break in the clause, a variable that is not declared,
and a literal that reads like an operator. -/
theorem conditionText_unresolved_mixed :
    let reference : Node := ⟨"DSOBJVariable", [("idVariable", "7")], [], ""⟩
    let literal : Node := ⟨"DSOBJLiteral", [], [], ""⟩
    let node : Node := ⟨"CRE_NODE", [("eCompType", " not_eq")],
      [⟨"zSubject", [], [reference], ""⟩, ⟨"zPredicate", [], [literal], ""⟩], ""⟩
    let shelf : Shelf Unit := ⟨.default, ()⟩
    let clause := "WHILE\tthis  IS not equal\n to or "
    let line := (conditionText none {} .ifBlock clause node shelf).1
    OperandsUnresolved none {} node shelf ∧ line = "While this is not equal to or" ∧
      (∃ w ∈ clauseKeywords, w ++ [' '] <+: line.toList) ∧
      (conditionText none {} .ifBlock line node shelf).1 = line := by
  intro reference literal node shelf clause line
  have hunresolved : OperandsUnresolved none {} node shelf := ⟨.eventVariable rfl, .literal⟩
  have hlength : (Comparison.ofCode (node.attr ["eCompType"])).pattern.length?
      "IS not equal\n to or ".toList = some 16 := by
    decide +kernel
  obtain ⟨x, a, e, hx, -⟩ := Phrase.matches_of_length? hlength
  have hclause : clause.toList = "WHILE\tthis  ".toList ++ (x ++ a) := by
    rw [← e]
    decide +kernel
  obtain ⟨before, m, after, hfirst, hline⟩ :=
    (conditionText_unresolved none {} .ifBlock clause node shelf).2 ⟨_, x, a, hclause, hx⟩
  have hafter : '&' ∉ after := fun hmem => by
    have hall : '&' ∉ clause.toList := by decide +kernel
    exact hall (by rw [hfirst.text_eq]; simp [hmem])
  obtain ⟨hword, -, -, hagain⟩ := hline hafter hunresolved
  exact ⟨hunresolved, by decide +kernel, hword, hagain shelf hunresolved⟩

end

end EventRules

/-
**Names that have nothing in common with the search text.**

A name without a common character should never be suggested.  Its distance to the search text is the
length of the longer text, which is as far as it gets; but that is a number of characters, and it is
set against a number of bytes.  In ASCII the two numbers are the same and the score is zero.  Where
the characters have two bytes each, or more, the score is one half, or more, and the name is
suggested whatever it says.

Main results:

* `between_of_disjoint` — how such a name is rated;
* `qualifies_of_disjoint_iff` — **when it qualifies**: if the characters of the longer text have two
  bytes on an average;
* `suggest_strangers` — **which of them are suggested**.
-/

import EventRules.Proofs.Ranking

set_option relaxedAutoImplicit false
set_option autoImplicit false

namespace EventRules

/-! ### ASCII -/

namespace Utf8

/-- In ASCII there are as many bytes as characters. -/
theorem length_encodeChars_of_ascii {cs : List Char} (h : ∀ c ∈ cs, c.toNat < 0x80) :
    (encodeChars cs).length = cs.length := by
  induction cs with
  | nil => rfl
  | cons c cs ih =>
      obtain ⟨hc, hcs⟩ := List.forall_mem_cons.1 h
      have hone : c.utf8Size = 1 := by
        rw [Char.utf8Size_eq_one_iff, UInt32.le_iff_toNat_le]
        exact Nat.le_of_lt_succ hc
      rw [encodeChars, List.flatMap_cons, List.length_append, String.length_utf8EncodeChar, hone,
        ← encodeChars, ih hcs, List.length_cons, Nat.add_comm]

theorem size_of_ascii {s : String} (h : ∀ c ∈ s.toList, c.toNat < 0x80) :
    size s = s.toList.length :=
  length_encodeChars_of_ascii h

end Utf8

/-! ### Ratings without common characters -/

-- decided on the characters of the text: there are too many characters to go through all of them
instance decidableDisjoint (cs ds : List Char) : Decidable (cs.Disjoint ds) :=
  decidable_of_iff (cs.all fun c => !ds.contains c) (by simp [List.Disjoint])

section

variable {wanted name : String}

/-- **How a name is rated** that has no character of the search text: by as many edits as the
longer text has characters. -/
theorem between_of_disjoint (hwanted : wanted ≠ "")
    (h : wanted.toList.Disjoint name.toList) :
    Similarity.between wanted name =
      .edits (max wanted.toList.length name.toList.length)
        (max (Utf8.size wanted) (Utf8.size name)) := by
  have hnot : ¬ wanted.toList <:+: name.toList := by
    intro hinside
    obtain ⟨c, hc⟩ := List.exists_mem_of_ne_nil wanted.toList
      (mt String.toList_eq_nil_iff.1 hwanted)
    exact h hc (hinside.subset hc)
  have hrates := Rates.edits hnot (isLeast_editDistance _ _)
  rw [editDistance_of_disjoint h] at hrates
  exact hrates.eq_between.1.symm

/-- **When such a name qualifies**: if the longer text has two bytes to a character. -/
theorem qualifies_of_disjoint_iff (hwanted : wanted ≠ "") (hname : name ≠ "")
    (h : wanted.toList.Disjoint (Text.upper name).toList) :
    Qualifies wanted name ↔
      2 * max wanted.toList.length (Text.upper name).toList.length ≤
        max (Utf8.size wanted) (Utf8.size (Text.upper name)) := by
  have hlength := List.length_pos_of_ne_nil (mt String.toList_eq_nil_iff.1 hwanted)
  have hsize := Utf8.length_le_size wanted
  have hle := editDistance_le_size wanted (Text.upper name)
  rw [editDistance_of_disjoint h] at hle
  rw [qualifies_iff, and_iff_right hname, matchOf, between_of_disjoint hwanted h]
  generalize max wanted.toList.length (Text.upper name).toList.length = chars at hle
  generalize hbytes : max (Utf8.size wanted) (Utf8.size (Text.upper name)) = bytes at hle
  have hpos : 0 < bytes := by omega
  have hpos' : (0 : ℚ) < bytes := Nat.cast_pos.2 hpos
  rw [score_edits hpos hle, leastScore, le_sub_comm, div_le_iff₀ hpos']
  constructor
  · intro hhalf
    have hdouble : (2 * chars : ℚ) ≤ bytes := by linarith
    exact_mod_cast hdouble
  · intro hdouble
    have hdouble' : (2 * chars : ℚ) ≤ bytes := by exact_mod_cast hdouble
    linarith

end

/-! ### Suggestions -/

section

variable {query wanted name : String} {names : List String} {limit : Int} {m : TemplateMatch}

/-- How a name without a common character is shown, and when. -/
theorem of_mem_suggest_of_disjoint (hwanted : Text.upper (Text.trim query) = wanted)
    (hstrange : wanted.toList.Disjoint (Text.upper m.name).toList)
    (hm : m ∈ suggest query names limit) :
    m.similarity = .edits (max wanted.toList.length (Text.upper m.name).toList.length)
        (max (Utf8.size wanted) (Utf8.size (Text.upper m.name))) ∧
      Text.isBlank query = false ∧ m.name ≠ "" ∧
      2 * max wanted.toList.length (Text.upper m.name).toList.length ≤
        max (Utf8.size wanted) (Utf8.size (Text.upper m.name)) := by
  obtain ⟨hquery, hmatch, hqualifies⟩ := of_mem_suggest hm
  rw [hwanted] at hmatch hqualifies
  have hne : wanted ≠ "" := hwanted ▸ Text.upper_trim_ne_empty hquery
  refine ⟨?_, hquery, hqualifies.1,
    (qualifies_of_disjoint_iff hne hqualifies.1 hstrange).1 hqualifies⟩
  have hsimilarity := congrArg TemplateMatch.similarity hmatch
  exact hsimilarity.trans ((similarity_matchOf _ _).trans (between_of_disjoint hne hstrange))

/-- Every name without a common character that has enough bytes is suggested. -/
theorem exists_suggest_of_disjoint (hwanted : Text.upper (Text.trim query) = wanted)
    (hquery : Text.isBlank query = false) (hname : name ∈ names) (hne : name ≠ "")
    (hstrange : wanted.toList.Disjoint (Text.upper name).toList)
    (hmany : 2 * max wanted.toList.length (Text.upper name).toList.length ≤
      max (Utf8.size wanted) (Utf8.size (Text.upper name))) :
    ∃ limit, ∃ m ∈ suggest query names limit, m.name = name := by
  have hne' : wanted ≠ "" := hwanted ▸ Text.upper_trim_ne_empty hquery
  refine ⟨names.length, matchOf wanted name, ?_, rfl⟩
  rw [suggest_all hquery (List.ne_nil_of_mem hname), hwanted]
  exact matchOf_mem_ranking hname ((qualifies_of_disjoint_iff hne' hne hstrange).2 hmany)

end

/-- **Which names without a common character are suggested.**  A name that has no character of the
search text, both in upper case, counts as many edits as the longer text has characters.  It is
suggested, for some limit, if and only if there is something to search for, the name is not empty
and there are at least twice as many bytes; so never in ASCII. -/
theorem suggest_strangers {query name : String} {names : List String} (hname : name ∈ names)
    (hstrange : (Text.upper (Text.trim query)).toList.Disjoint (Text.upper name).toList) :
    let wanted := Text.upper (Text.trim query)
    let chars := max wanted.toList.length (Text.upper name).toList.length
    let bytes := max (Utf8.size wanted) (Utf8.size (Text.upper name))
    (∀ limit, ∀ m ∈ suggest query names limit, m.name = name → m.similarity = .edits chars bytes) ∧
    ((∃ limit, ∃ m ∈ suggest query names limit, m.name = name) ↔
      Text.isBlank query = false ∧ name ≠ "" ∧ 2 * chars ≤ bytes) ∧
    ((∀ c ∈ wanted.toList ++ (Text.upper name).toList, c.toNat < 0x80) →
      ∀ limit, ∀ m ∈ suggest query names limit, m.name ≠ name) := by
  dsimp only
  refine ⟨?_, ⟨?_, ?_⟩, ?_⟩
  · rintro limit m hm rfl
    exact (of_mem_suggest_of_disjoint rfl hstrange hm).1
  · rintro ⟨limit, m, hm, rfl⟩
    exact (of_mem_suggest_of_disjoint rfl hstrange hm).2
  · rintro ⟨hquery, hne, hmany⟩
    exact exists_suggest_of_disjoint rfl hquery hname hne hstrange hmany
  · rintro hascii limit m hm rfl
    obtain ⟨-, hquery, -, hmany⟩ := of_mem_suggest_of_disjoint rfl hstrange hm
    rw [List.forall_mem_append] at hascii
    have hpos := List.length_pos_of_ne_nil
      (mt String.toList_eq_nil_iff.1 (Text.upper_trim_ne_empty hquery))
    rw [Utf8.size_of_ascii hascii.1, Utf8.size_of_ascii hascii.2] at hmany
    omega

/-- Two words without a common character, of which the other one is suggested, and a name in ASCII
that is not. -/
theorem suggest_strangers_ascii :
    "D4211".toList.Disjoint "ZZZ".toList ∧ "ЛИСТ".toList.Disjoint "ЗАКАЗ".toList ∧
      (∀ limit, ∀ m ∈ suggest " zzz" ["D4211", "zzz1"] limit, m.name ≠ "D4211") ∧
      ∃ limit, ∃ m ∈ suggest "заказ" ["D4211", "лист"] limit, m.name = "лист" := by
  refine ⟨by decide +kernel, by decide +kernel, ?_, ?_⟩
  · refine (suggest_strangers List.mem_cons_self (by decide +kernel)).2.2 fun c hc => ?_
    have hascii : ((Text.upper (Text.trim " zzz")).toList ++ (Text.upper "D4211").toList).all
        (fun c => decide (c.toNat < 0x80)) = true := by decide +kernel
    exact of_decide_eq_true (List.all_eq_true.1 hascii c hc)
  · exact (suggest_strangers (List.mem_cons_of_mem _ List.mem_cons_self)
      (by decide +kernel)).2.1.2 (by decide +kernel)

/-- Two characters of three bytes each make two thirds out of nothing. -/
theorem suggest_stranger :
    "订单".toList.Disjoint "客户".toList ∧
      suggest "订单" ["客户"] 0 = [⟨"客户", .edits 2 6⟩] ∧
      (Similarity.edits 2 6).score = 2 / 3 := by
  refine ⟨by decide +kernel, by decide +kernel, ?_⟩
  rw [score_edits (by decide) (by decide)]
  norm_num

end EventRules

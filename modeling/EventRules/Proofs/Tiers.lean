/-
**Where the tiers of the ranking are mixed.**

Names that start with the search text should come first, then those that contain it, then those that
are a few edits away.  The first two tiers have fixed scores, 19/20 and 9/10.  But the score of the
last one grows with the length of the texts: one edit costs one over the number of bytes.  With more
than twenty bytes to an edit a name comes before those that start with the text, and with more than
ten before those that contain it; with just as many the names decide.

These are the only pairs that are out of order, and all of them are.  In particular the tiers are
kept as long as no text has more than nine bytes.

Main definitions:

* `Similarity.tier` — the tiers;
* `Similarity.bytesPerEdit?` — how many bytes to an edit score as much;
* `TemplateMatch.Overtakes` — **a match by edits that comes before one of a better tier**.

Main results:

* `Rates.tier_eq_zero_iff`, `Rates.tier_le_one_iff` — the tiers say how the texts are related;
* `ranksBefore_iff_overtakes` — what comes before an entry of a better tier;
* `suggest_by_tier` — **the pairs that are out of order**.
-/

import EventRules.Proofs.Dictionaries
import EventRules.Proofs.Ranking

set_option relaxedAutoImplicit false
set_option autoImplicit false

namespace EventRules

/-! ### Tiers -/

namespace Similarity

/-- **The tier of a match**: those that start with the text, those that contain it, those that are
some edits away. -/
def tier : Similarity → Nat
  | .same => 0
  | .beginning => 0
  | .inside => 1
  | .edits _ _ => 2
  | .unranked => 3

/-- The number of bytes to an edit with which a match by edits scores as much as this one. -/
def bytesPerEdit? : Similarity → Option Nat
  | .beginning => some 20
  | .inside => some 10
  | _ => none

theorem score_of_bytesPerEdit? {s : Similarity} {k : Nat} (h : s.bytesPerEdit? = some k) :
    10 ≤ k ∧ s.score = 1 - 1 / (k : ℚ) ∧ s.tier < 2 := by
  cases s with
  | beginning =>
      cases h
      exact ⟨by decide, by norm_num [score], by decide⟩
  | inside =>
      cases h
      exact ⟨by decide, by norm_num [score], by decide⟩
  | _ => cases h

end Similarity

namespace Rates

variable {wanted name : String} {s : Similarity} {score : ℚ}

/-- **The first tier** has the names that start with the text. -/
theorem tier_eq_zero_iff (h : Rates wanted name s score) :
    s.tier = 0 ↔ wanted.toList <+: name.toList := by
  cases h with
  | same h => simp [Similarity.tier, h]
  | beginning _ h => simp [Similarity.tier, h]
  | inside hstart _ => simp [Similarity.tier, hstart]
  | edits hnot _ => simpa [Similarity.tier] using fun h : _ <+: _ => hnot h.isInfix

/-- **The second tier** has the others that contain it. -/
theorem tier_le_one_iff (h : Rates wanted name s score) :
    s.tier ≤ 1 ↔ wanted.toList <:+: name.toList := by
  cases h with
  | same h => simp [Similarity.tier, h]
  | beginning _ h => simp [Similarity.tier, h.isInfix]
  | inside _ h => simp [Similarity.tier, h]
  | edits hnot _ => simp [Similarity.tier, hnot]

end Rates

/-! ### Overtaking -/

/-- **A match by edits that comes before one of a better tier**: there are more bytes to an edit
than score as much, or as many and the name has smaller bytes. -/
def TemplateMatch.Overtakes (a b : TemplateMatch) : Prop :=
  ∃ distance longest k, a.similarity = .edits distance longest ∧
    b.similarity.bytesPerEdit? = some k ∧
    (k * distance < longest ∨
      k * distance = longest ∧ Utf8.encode a.name < Utf8.encode b.name)

theorem TemplateMatch.Overtakes.tier_lt {a b : TemplateMatch} (h : a.Overtakes b) :
    b.similarity.tier < a.similarity.tier := by
  obtain ⟨distance, longest, k, ha, hk, -⟩ := h
  rw [ha]
  exact (Similarity.score_of_bytesPerEdit? hk).2.2

section

variable {k distance longest : Nat}

/-- Scores compare as the numbers of bytes do. -/
theorem ratio_lt_iff (hk : 0 < k) (hlongest : 0 < longest) :
    1 - 1 / (k : ℚ) < 1 - distance / longest ↔ k * distance < longest := by
  have hk' : (0 : ℚ) < k := Nat.cast_pos.2 hk
  have hlongest' : (0 : ℚ) < longest := Nat.cast_pos.2 hlongest
  rw [sub_lt_sub_iff_left, div_lt_div_iff₀ hlongest' hk', one_mul, mul_comm]
  exact_mod_cast Iff.rfl

theorem ratio_eq_iff (hk : 0 < k) (hlongest : 0 < longest) :
    1 - distance / (longest : ℚ) = 1 - 1 / k ↔ k * distance = longest := by
  have hk' : (k : ℚ) ≠ 0 := Nat.cast_ne_zero.2 hk.ne'
  have hlongest' : (longest : ℚ) ≠ 0 := Nat.cast_ne_zero.2 hlongest.ne'
  rw [sub_right_inj, div_eq_div_iff hlongest' hk', one_mul, mul_comm]
  exact_mod_cast Iff.rfl

end

/-- Of two matches the one of the better tier scores more, unless it is one that starts with the
text or contains it and the other one is some edits away. -/
theorem Rates.lt_or_edits {wanted name name' : String} {s s' : Similarity} {score score' : ℚ}
    (h : Rates wanted name s score) (h' : Rates wanted name' s' score') (htier : s'.tier < s.tier) :
    (score < score' ∧ ∀ distance longest k,
      s = .edits distance longest → s'.bytesPerEdit? ≠ some k) ∨
    ∃ distance longest k, s = .edits distance longest ∧ s'.bytesPerEdit? = some k ∧
      0 < longest ∧ score = 1 - (distance : ℚ) / longest := by
  cases h with
  | same _ => exact absurd htier (Nat.not_lt_zero _)
  | beginning _ _ => exact absurd htier (Nat.not_lt_zero _)
  | inside _ _ =>
      refine .inl ⟨?_, nofun⟩
      cases h' with
      | same _ => norm_num
      | beginning _ _ => norm_num
      | inside _ _ => exact absurd htier (Nat.lt_irrefl _)
      | edits _ _ => exact absurd htier (Nat.not_lt.2 (Nat.le_succ 1))
  | edits hnot h =>
      obtain ⟨hpos, hle⟩ := bounds_of_not_inside hnot h
      cases h' with
      | same h' =>
          have hrates := Rates.edits hnot h
          have hne := mt hrates.eq_one_iff.1 fun he => hnot (he ▸ List.infix_rfl)
          exact .inl ⟨lt_of_le_of_ne hrates.le_one hne, nofun⟩
      | beginning _ _ => exact .inr ⟨_, _, 20, rfl, rfl, hpos.trans_le hle, rfl⟩
      | inside _ _ => exact .inr ⟨_, _, 10, rfl, rfl, hpos.trans_le hle, rfl⟩
      | edits _ _ => exact absurd htier (Nat.lt_irrefl _)

section

variable {wanted : String} {a b : TemplateMatch}

/-- **What comes before an entry of a better tier** are the matches that overtake it. -/
theorem ranksBefore_iff_overtakes
    (ha : Rates wanted (Text.upper a.name) a.similarity a.similarity.score)
    (hb : Rates wanted (Text.upper b.name) b.similarity b.similarity.score)
    (hname : a.name ≠ b.name) (htier : b.similarity.tier < a.similarity.tier) :
    a.RanksBefore b ↔ a.Overtakes b := by
  have hencode : Utf8.encode a.name ≤ Utf8.encode b.name ↔
      Utf8.encode a.name < Utf8.encode b.name := by
    rw [TemplateMatch.encode_le_iff, Utf8.encode_lt_iff]
    exact ⟨fun hle => Dictionary.lt_of_not_lt (String.not_lt.2 hle) hname,
      fun hlt => String.not_lt.1 (String.lt_asymm hlt)⟩
  rcases ha.lt_or_edits hb htier with ⟨hlt, hnot⟩ |
    ⟨distance, longest, k, hedits, hk, hlongest, hscore'⟩
  · refine iff_of_false ?_ ?_
    · rintro (hgt | ⟨heq, -⟩)
      · exact absurd hlt hgt.asymm
      · exact absurd heq hlt.ne
    · rintro ⟨distance, longest, k, hedits, hk, -⟩
      exact hnot distance longest k hedits hk
  · obtain ⟨hten, hscore, -⟩ := Similarity.score_of_bytesPerEdit? hk
    have hk0 : 0 < k := by omega
    have hfew : a.RanksBefore b ↔ k * distance < longest ∨
        k * distance = longest ∧ Utf8.encode a.name < Utf8.encode b.name := by
      rw [TemplateMatch.RanksBefore, hencode, hscore, hscore', ratio_lt_iff hk0 hlongest,
        ratio_eq_iff hk0 hlongest]
    rw [hfew]
    constructor
    · exact fun h => ⟨distance, longest, k, hedits, hk, h⟩
    · rintro ⟨distance', longest', k', hedits', hk', h⟩
      cases hedits.symm.trans hedits'
      cases hk.symm.trans hk'
      exact h

end

/-! ### Suggestions -/

theorem pairwise_tier_iff {query : String} {names : List String} {limit : Int}
    (hout : ∀ a ∈ suggest query names limit, ∀ b ∈ suggest query names limit,
      b.similarity.tier < a.similarity.tier →
        ([a, b].Sublist (suggest query names limit) ↔ a.Overtakes b)) :
    ((suggest query names limit).Pairwise fun a b => a.similarity.tier ≤ b.similarity.tier) ↔
      ∀ a ∈ suggest query names limit, ∀ b ∈ suggest query names limit, ¬ a.Overtakes b := by
  rw [List.pairwise_iff_forall_sublist]
  constructor
  · intro h a ha b hb hover
    have hlt := hover.tier_lt
    exact absurd (h ((hout a ha b hb hlt).2 hover)) (Nat.not_le.2 hlt)
  · intro h a b hab
    have ha := hab.subset List.mem_cons_self
    have hb := hab.subset (List.mem_cons_of_mem _ List.mem_cons_self)
    by_contra hnot
    exact h a ha b hb ((hout a ha b hb (Nat.not_le.1 hnot)).1 hab)

/-- **The pairs of suggestions that are out of order.**  What is suggested has the tier that its
name says.  Of two suggestions of different tiers the one of the better tier comes first, unless the
other one takes so few edits for its length that it overtakes it; so the tiers are kept if and only
if there is no such suggestion.  There is none as long as no text has more than nine bytes. -/
theorem suggest_by_tier (query : String) (names : List String) (limit : Int) :
    let wanted := Text.upper (Text.trim query)
    let result := suggest query names limit
    (∀ m ∈ result, Rates wanted (Text.upper m.name) m.similarity m.similarity.score ∧
      (m.similarity.tier = 0 ↔ wanted.toList <+: (Text.upper m.name).toList) ∧
      (m.similarity.tier ≤ 1 ↔ wanted.toList <:+: (Text.upper m.name).toList)) ∧
    (∀ a ∈ result, ∀ b ∈ result, b.similarity.tier < a.similarity.tier →
      ([a, b].Sublist result ↔ a.Overtakes b) ∧ ([b, a].Sublist result ↔ ¬ a.Overtakes b)) ∧
    ((result.Pairwise fun a b => a.similarity.tier ≤ b.similarity.tier) ↔
      ∀ a ∈ result, ∀ b ∈ result, ¬ a.Overtakes b) ∧
    (Utf8.size wanted < 10 → (∀ name ∈ names, Utf8.size (Text.upper name) < 10) →
      result.Pairwise fun a b => a.similarity.tier ≤ b.similarity.tier) := by
  intro wanted result
  have hranks := ranks_ranking wanted names
  have hpart : result.Sublist (ranking wanted names) := suggest_sublist query names limit
  have hrated (m : TemplateMatch) (hm : m ∈ result) := hranks.rated m (hpart.subset hm)
  have hpair (a : TemplateMatch) (ha : a ∈ result) (b : TemplateMatch) (hb : b ∈ result)
      (hlt : b.similarity.tier < a.similarity.tier) :
      ([a, b].Sublist result ↔ a.Overtakes b) ∧ ([b, a].Sublist result ↔ ¬ a.Overtakes b) := by
    have hne : a ≠ b := by
      rintro rfl
      exact Nat.lt_irrefl _ hlt
    have hname := hranks.name_ne (hpart.subset ha) (hpart.subset hb) hne
    rw [hranks.sublist_iff hpart ha hb hne, hranks.sublist_iff hpart hb ha hne.symm,
      ← TemplateMatch.not_ranksBefore_iff hname,
      ranksBefore_iff_overtakes (hrated a ha) (hrated b hb) hname hlt]
    exact ⟨Iff.rfl, Iff.rfl⟩
  have hkept := pairwise_tier_iff fun a ha b hb hlt => (hpair a ha b hb hlt).1
  refine ⟨fun m hm => ⟨hrated m hm, (hrated m hm).tier_eq_zero_iff, (hrated m hm).tier_le_one_iff⟩,
    hpair, hkept, fun hwanted hnames => hkept.2 ?_⟩
  rintro a ha b - ⟨distance, longest, k, hedits, hk, hover⟩
  -- an edit at least needs ten bytes at least
  have hten := (Similarity.score_of_bytesPerEdit? hk).1
  have hsize := hnames a.name (exists_of_mem_ranking (hpart.subset ha)).2.1
  obtain ⟨hpos, hlongest⟩ := (hrated a ha).bounds_of_edits hedits
  have hmany := Nat.mul_le_mul hten hpos
  omega

/-- One edit in more than twenty bytes is enough to come before a name that starts with the search
text, and before one that contains it. -/
theorem suggest_out_of_tier :
    let names := ["XCustomerOrderManagement", "CustomerOrderManagement2",
      "CustomerOrderManagemant"]
    suggest "CustomerOrderManagement" names 0 =
        [⟨"CustomerOrderManagemant", .edits 1 23⟩, ⟨"CustomerOrderManagement2", .beginning⟩,
          ⟨"XCustomerOrderManagement", .inside⟩] ∧
      ¬ (suggest "CustomerOrderManagement" names 0).Pairwise fun a b =>
        a.similarity.tier ≤ b.similarity.tier := by
  intro names
  have hwanted : Text.upper (Text.trim "CustomerOrderManagement") = "CUSTOMERORDERMANAGEMENT" := by
    decide +kernel
  have hranking : ranking "CUSTOMERORDERMANAGEMENT" names =
      [⟨"CustomerOrderManagemant", .edits 1 23⟩, ⟨"CustomerOrderManagement2", .beginning⟩,
        ⟨"XCustomerOrderManagement", .inside⟩] :=
    ranking_eq (by decide +kernel) (by decide +kernel)
  have hsuggest : suggest "CustomerOrderManagement" names 0 =
      [⟨"CustomerOrderManagemant", .edits 1 23⟩, ⟨"CustomerOrderManagement2", .beginning⟩,
        ⟨"XCustomerOrderManagement", .inside⟩] := by
    rw [suggest_eq (by decide +kernel), hwanted, hranking]
    rfl
  refine ⟨hsuggest, ?_⟩
  rw [hsuggest]
  decide

end EventRules

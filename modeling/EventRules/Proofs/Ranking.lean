/-
**Suggestions are the top of a ranking.**

All names that score at least one half are ranked: the higher score comes first, and of equal scores
the name with the smaller bytes.  A name has one score only, so two entries with the same place in
the order are the same entry.  Hence there is one ranking of a list of names, in whatever order the
names are listed, and what is suggested are its first entries.

Main definitions:

* `Qualifies` — a name that may be suggested;
* `TemplateMatch.RanksBefore` — the order of the entries;
* `Ranks` — **a ranking of names**;
* `ranking` — the ranking that is computed.

Main results:

* `TemplateMatch.precedes_iff` — the order is computed as it should be;
* `ranks_ranking`, `Ranks.unique` — there is a ranking, and only one;
* `Ranks.sublist_iff` — what comes before what;
* `suggest_top_of_ranking` — **suggestions are the top of the ranking**.
-/

import EventRules.Proofs.Keys
import EventRules.Proofs.Rating

set_option relaxedAutoImplicit false
set_option autoImplicit false

namespace EventRules

/-! ### The search text -/

namespace Text

theorem trimChars_eq_nil_iff {cs : List Char} :
    trimChars cs = [] ↔ cs.all isSpace = true := by
  rw [trimChars, trimRightChars, List.reverse_eq_nil_iff, List.dropWhile_eq_nil_iff,
    List.all_eq_true]
  constructor
  · intro h
    -- the first character that is no white space would be left
    have hnil : cs.dropWhile isSpace = [] := by
      cases hrest : cs.dropWhile isSpace with
      | nil => rfl
      | cons c rest =>
          have hspace := h c (by simp [trimLeftChars, hrest])
          have hhead := List.head?_dropWhile_not isSpace cs
          rw [hrest] at hhead
          simp [hspace] at hhead
    exact List.dropWhile_eq_nil_iff.1 hnil
  · intro h c hc
    exact h c ((List.dropWhile_sublist isSpace).subset (List.mem_reverse.1 hc))

/-- Nothing is searched for if and only if the search text is blank. -/
theorem upper_trim_eq_empty_iff {query : String} :
    upper (trim query) = "" ↔ isBlank query = true := by
  rw [← String.toList_inj, toList_upper, toList_trim, String.toList_empty, List.map_eq_nil_iff,
    trimChars_eq_nil_iff, isBlank]

theorem upper_trim_ne_empty {query : String} (h : isBlank query = false) :
    upper (trim query) ≠ "" := by
  rw [Ne, upper_trim_eq_empty_iff, h]
  exact Bool.false_ne_true

end Text

/-! ### The order of matches -/

namespace TemplateMatch

/-- **The order of the ranking**: the higher score first, then the smaller bytes. -/
def RanksBefore (a b : TemplateMatch) : Prop :=
  b.similarity.score < a.similarity.score ∨
    a.similarity.score = b.similarity.score ∧ Utf8.encode a.name ≤ Utf8.encode b.name

theorem encode_le_iff {s t : String} : Utf8.encode s ≤ Utf8.encode t ↔ s ≤ t := by
  rw [← List.not_lt, Utf8.encode_lt_iff, String.not_lt]

variable {a b c : TemplateMatch}

theorem precedes_iff : a.precedes b = true ↔ a.RanksBefore b := by
  rw [precedes, RanksBefore, encode_le_iff, Bool.or_eq_true, Bool.and_eq_true, decide_eq_true_eq,
    decide_eq_true_eq, beq_iff_eq]

theorem RanksBefore.trans (hab : a.RanksBefore b) (hbc : b.RanksBefore c) : a.RanksBefore c := by
  rcases hab with hab | ⟨hab, hname⟩
  · rcases hbc with hbc | ⟨hbc, -⟩
    · exact .inl (hbc.trans hab)
    · exact .inl (hbc ▸ hab)
  · rcases hbc with hbc | ⟨hbc, hname'⟩
    · exact .inl (hab ▸ hbc)
    · rw [encode_le_iff] at hname hname'
      exact .inr ⟨hab.trans hbc, encode_le_iff.2 (String.le_trans hname hname')⟩

theorem ranksBefore_total (a b : TemplateMatch) : a.RanksBefore b ∨ b.RanksBefore a := by
  rcases lt_trichotomy a.similarity.score b.similarity.score with hlt | heq | hlt
  · exact .inr (.inl hlt)
  · rcases String.le_total a.name b.name with hname | hname
    · exact .inl (.inr ⟨heq, encode_le_iff.2 hname⟩)
    · exact .inr (.inr ⟨heq.symm, encode_le_iff.2 hname⟩)
  · exact .inl (.inl hlt)

/-- Only entries of one name have the same place. -/
theorem RanksBefore.name_eq (hab : a.RanksBefore b) (hba : b.RanksBefore a) : a.name = b.name := by
  rcases hab with hab | ⟨hab, hname⟩
  · rcases hba with hba | ⟨hba, -⟩
    · exact absurd hab hba.asymm
    · exact absurd hba hab.ne
  · rcases hba with hba | ⟨-, hname'⟩
    · exact absurd hab hba.ne
    · exact String.le_antisymm (encode_le_iff.1 hname) (encode_le_iff.1 hname')

/-- Of two names one comes first. -/
theorem not_ranksBefore_iff (h : a.name ≠ b.name) : ¬ a.RanksBefore b ↔ b.RanksBefore a :=
  ⟨(ranksBefore_total a b).resolve_left, fun hba hab => h (hab.name_eq hba)⟩

end TemplateMatch

/-! ### Rankings -/

/-- **A name that may be suggested** for a search text in upper case. -/
def Qualifies (wanted name : String) : Prop :=
  name ≠ "" ∧ ∃ s score, Rates wanted (Text.upper name) s score ∧ 1 / 2 ≤ score

/-- A name with its similarity to the search text. -/
def matchOf (wanted name : String) : TemplateMatch :=
  ⟨name, Similarity.between wanted (Text.upper name)⟩

theorem similarity_matchOf (wanted name : String) :
    (matchOf wanted name).similarity = Similarity.between wanted (Text.upper name) :=
  rfl

/-- **A ranking of names** for a search text in upper case. -/
structure Ranks (wanted : String) (names : List String) (entries : List TemplateMatch) : Prop where
  /-- Each entry has the rating of its name. -/
  rated : ∀ m ∈ entries, Rates wanted (Text.upper m.name) m.similarity m.similarity.score
  /-- Only names that qualify are in it. -/
  qualified : ∀ m ∈ entries, Qualifies wanted m.name
  /-- Each of them is in it as often as it is listed. -/
  count_eq : ∀ name, Qualifies wanted name → (entries.map (·.name)).count name = names.count name
  /-- The entries are in order. -/
  ordered : entries.Pairwise TemplateMatch.RanksBefore

/-- The matches of the names that qualify, in the order of the list. -/
def matching (wanted : String) (names : List String) : List TemplateMatch :=
  (names.filter fun name =>
    name ≠ "" ∧ leastScore ≤ (matchOf wanted name).similarity.score).map (matchOf wanted)

/-- **The ranking that is computed.** -/
def ranking (wanted : String) (names : List String) : List TemplateMatch :=
  (matching wanted names).mergeSort TemplateMatch.precedes

section

variable {wanted name : String} {names names' : List String} {entries entries' : List TemplateMatch}

theorem qualifies_iff :
    Qualifies wanted name ↔ name ≠ "" ∧ leastScore ≤ (matchOf wanted name).similarity.score := by
  refine and_congr_right fun _ => ⟨?_, fun h => ?_⟩
  · rintro ⟨s, score, hrates, hscore⟩
    obtain ⟨-, rfl⟩ := hrates.eq_between
    exact hscore
  · exact ⟨_, _, rates_between _ _, h⟩

theorem map_name_matching :
    (matching wanted names).map (·.name) =
      names.filter fun name =>
        name ≠ "" ∧ leastScore ≤ (matchOf wanted name).similarity.score := by
  rw [matching, List.map_map]
  exact List.map_id _

theorem perm_ranking (wanted : String) (names : List String) :
    (ranking wanted names).Perm (matching wanted names) :=
  List.mergeSort_perm _ _

theorem exists_of_mem_ranking {m : TemplateMatch} (h : m ∈ ranking wanted names) :
    m = matchOf wanted m.name ∧ m.name ∈ names ∧ Qualifies wanted m.name := by
  obtain ⟨name, hname, rfl⟩ := List.mem_map.1 ((perm_ranking wanted names).mem_iff.1 h)
  obtain ⟨hmem, hqualifies⟩ := List.mem_filter.1 hname
  exact ⟨rfl, hmem, qualifies_iff.2 (of_decide_eq_true hqualifies)⟩

theorem matchOf_mem_ranking (hmem : name ∈ names) (h : Qualifies wanted name) :
    matchOf wanted name ∈ ranking wanted names := by
  refine (perm_ranking wanted names).mem_iff.2 (List.mem_map_of_mem ?_)
  exact List.mem_filter.2 ⟨hmem, decide_eq_true (qualifies_iff.1 h)⟩

theorem pairwise_mergeSort_precedes (entries : List TemplateMatch) :
    (entries.mergeSort TemplateMatch.precedes).Pairwise TemplateMatch.RanksBefore := by
  have htrans (a b c : TemplateMatch) (hab : a.precedes b = true) (hbc : b.precedes c = true) :
      a.precedes c = true :=
    TemplateMatch.precedes_iff.2
      ((TemplateMatch.precedes_iff.1 hab).trans (TemplateMatch.precedes_iff.1 hbc))
  have htotal (a b : TemplateMatch) : (a.precedes b || b.precedes a) = true := by
    rw [Bool.or_eq_true, TemplateMatch.precedes_iff, TemplateMatch.precedes_iff]
    exact a.ranksBefore_total b
  exact (List.pairwise_mergeSort htrans htotal entries).imp TemplateMatch.precedes_iff.1

/-- **There is a ranking.** -/
theorem ranks_ranking (wanted : String) (names : List String) :
    Ranks wanted names (ranking wanted names) where
  rated m hm := by
    obtain ⟨hmatch, -, -⟩ := exists_of_mem_ranking hm
    rw [hmatch]
    exact rates_between _ _
  qualified m hm := (exists_of_mem_ranking hm).2.2
  count_eq name h := by
    rw [((perm_ranking wanted names).map _).count_eq, map_name_matching, List.count_filter]
    exact decide_eq_true (qualifies_iff.1 h)
  ordered := pairwise_mergeSort_precedes _

namespace Ranks

theorem eq_matchOf (h : Ranks wanted names entries) {m : TemplateMatch} (hm : m ∈ entries) :
    m = matchOf wanted m.name :=
  congrArg (TemplateMatch.mk m.name) (h.rated m hm).eq_between.1

theorem count_name_eq (h : Ranks wanted names entries) (h' : Ranks wanted names' entries')
    (hp : names.Perm names') (name : String) :
    (entries.map (·.name)).count name = (entries'.map (·.name)).count name := by
  by_cases hq : Qualifies wanted name
  · rw [h.count_eq name hq, h'.count_eq name hq, hp.count_eq]
  · have hnone {es : List TemplateMatch} (hes : ∀ m ∈ es, Qualifies wanted m.name) :
        (es.map (·.name)).count name = 0 := by
      refine List.count_eq_zero.2 fun hmem => ?_
      obtain ⟨m, hm, rfl⟩ := List.mem_map.1 hmem
      exact hq (hes m hm)
    rw [hnone h.qualified, hnone h'.qualified]

/-- **There is only one ranking**, in whatever order the names are listed. -/
theorem unique (h : Ranks wanted names entries) (h' : Ranks wanted names' entries')
    (hp : names.Perm names') : entries = entries' := by
  have hmatches {ns : List String} {es : List TemplateMatch} (hes : Ranks wanted ns es) :
      (es.map (·.name)).map (matchOf wanted) = es := by
    rw [List.map_map]
    conv_rhs => rw [← List.map_id es]
    exact List.map_congr_left fun m hm => (hes.eq_matchOf hm).symm
  have hperm : entries.Perm entries' := by
    rw [← hmatches h, ← hmatches h']
    exact (List.perm_iff_count.2 (h.count_name_eq h' hp)).map _
  refine hperm.eq_of_pairwise (fun a b ha hb hab hba => ?_) h.ordered h'.ordered
  rw [h.eq_matchOf ha, h'.eq_matchOf hb, hab.name_eq hba]

/-- Different entries have different names. -/
theorem name_ne (h : Ranks wanted names entries) {a b : TemplateMatch} (ha : a ∈ entries)
    (hb : b ∈ entries) (hne : a ≠ b) : a.name ≠ b.name := by
  intro hname
  rw [h.eq_matchOf ha, hname, ← h.eq_matchOf hb] at hne
  exact hne rfl

/-- **What comes before what**: of two entries the one that ranks before the other. -/
theorem sublist_iff (h : Ranks wanted names entries) {part : List TemplateMatch}
    (hpart : part.Sublist entries) {a b : TemplateMatch} (ha : a ∈ part) (hb : b ∈ part)
    (hne : a ≠ b) : [a, b].Sublist part ↔ a.RanksBefore b := by
  have hordered := h.ordered.sublist hpart
  constructor
  · intro hab
    exact List.rel_of_pairwise_cons (hordered.sublist hab) List.mem_cons_self
  · intro hab
    obtain ⟨before, after, rfl⟩ := List.append_of_mem ha
    rcases List.mem_append.1 hb with hb | hb
    · -- otherwise the two would have the same place
      have hba := (List.pairwise_append.1 hordered).2.2 b hb a List.mem_cons_self
      have hname := h.name_ne (hpart.subset ha) (hpart.subset (List.mem_append_left _ hb)) hne
      exact absurd (hab.name_eq hba) hname
    · have hafter : b ∈ after := (List.mem_cons.1 hb).resolve_left (Ne.symm hne)
      exact ((List.singleton_sublist.2 hafter).cons_cons a).trans (List.sublist_append_right _ _)

end Ranks

/-- Entries that are in order are the ranking. -/
theorem ranking_eq (hperm : entries.Perm (matching wanted names))
    (hordered : entries.Pairwise fun a b => a.precedes b = true) :
    ranking wanted names = entries := by
  refine ((perm_ranking wanted names).trans hperm.symm).eq_of_pairwise (fun a b ha hb hab hba => ?_)
    (ranks_ranking wanted names).ordered (hordered.imp TemplateMatch.precedes_iff.1)
  have hb' := (perm_ranking wanted names).mem_iff.2 (hperm.mem_iff.1 hb)
  rw [(exists_of_mem_ranking ha).1, (exists_of_mem_ranking hb').1, hab.name_eq hba]

end

/-! ### Suggestions -/

/-- How many names are suggested at most. -/
def mostSuggestions (limit : Int) : Nat :=
  if limit ≤ 0 then defaultSuggestions else limit.toNat

theorem filterMap_eq_matching (wanted : String) (names : List String) :
    (names.filterMap fun name =>
        let similarity := Similarity.between wanted (Text.upper name)
        if name = "" ∨ similarity.score < leastScore then none else some ⟨name, similarity⟩) =
      matching wanted names := by
  induction names with
  | nil => rfl
  | cons name names ih =>
      rw [matching, List.filterMap_cons, ih, List.filter_cons]
      by_cases h : name = "" ∨ (Similarity.between wanted (Text.upper name)).score < leastScore
      · have hnot : ¬ (name ≠ "" ∧ leastScore ≤ (matchOf wanted name).similarity.score) := by
          rwa [not_and_or, not_not, not_le]
        simp only [if_pos h, decide_eq_false hnot, Bool.false_eq_true, if_false]
        rfl
      · have hyes : name ≠ "" ∧ leastScore ≤ (matchOf wanted name).similarity.score := by
          rwa [not_or, not_lt] at h
        simp only [if_neg h, decide_eq_true hyes, if_true]
        rfl

/-- **What is suggested are the first entries of the ranking.** -/
theorem suggest_eq {query : String} (hquery : Text.isBlank query = false) (names : List String)
    (limit : Int) :
    suggest query names limit =
      (ranking (Text.upper (Text.trim query)) names).take (mostSuggestions limit) := by
  rw [suggest, if_neg (Text.upper_trim_ne_empty hquery), ranking, ← filterMap_eq_matching]
  rfl

theorem suggest_of_blank {query : String} (hquery : Text.isBlank query = true)
    (names : List String) (limit : Int) : suggest query names limit = [] := by
  rw [suggest, if_pos (Text.upper_trim_eq_empty_iff.2 hquery)]

/-- With a limit as large as the list nothing is left out. -/
theorem suggest_all {query : String} (hquery : Text.isBlank query = false) {names : List String}
    (hnames : names ≠ []) :
    suggest query names names.length = ranking (Text.upper (Text.trim query)) names := by
  have hpos := List.length_pos_of_ne_nil hnames
  have hmost : mostSuggestions names.length = names.length := by
    rw [mostSuggestions, if_neg (by omega), Int.toNat_natCast]
  have hlength : (ranking (Text.upper (Text.trim query)) names).length ≤ names.length := by
    rw [(perm_ranking _ _).length_eq, matching, List.length_map]
    exact List.length_filter_le _ _
  rw [suggest_eq hquery, hmost, List.take_of_length_le hlength]

/-- What is suggested is part of the ranking, in the same order. -/
theorem suggest_sublist (query : String) (names : List String) (limit : Int) :
    (suggest query names limit).Sublist (ranking (Text.upper (Text.trim query)) names) := by
  cases hquery : Text.isBlank query with
  | true =>
      rw [suggest_of_blank hquery]
      exact List.nil_sublist _
  | false =>
      rw [suggest_eq hquery]
      exact List.take_sublist _ _

/-- What is known of a name that is suggested. -/
theorem of_mem_suggest {query : String} {names : List String} {limit : Int} {m : TemplateMatch}
    (h : m ∈ suggest query names limit) :
    Text.isBlank query = false ∧ m = matchOf (Text.upper (Text.trim query)) m.name ∧
      Qualifies (Text.upper (Text.trim query)) m.name := by
  obtain ⟨hmatch, -, hqualifies⟩ :=
    exists_of_mem_ranking ((suggest_sublist query names limit).subset h)
  refine ⟨?_, hmatch, hqualifies⟩
  rw [← Bool.not_eq_true]
  intro hblank
  rw [suggest_of_blank hblank] at h
  exact List.not_mem_nil h

/-- **Suggestions are the top of the ranking.**  There is one ranking of the names that score at
least one half, and the first entries of it are suggested, ten if the limit is not positive.  So it
does not matter in which order the names are listed, and no name that is left out ranks before one
that is suggested.  The scores are at most one, and one only for names that are the search text up
to white space around it and letter case. -/
theorem suggest_top_of_ranking (query : String) (hquery : Text.isBlank query = false)
    (names : List String) (limit : Int) :
    let wanted := Text.upper (Text.trim query)
    let most := if limit ≤ 0 then 10 else limit.toNat
    (∃ entries, Ranks wanted names entries ∧
      (∀ others, Ranks wanted names others → others = entries) ∧
      suggest query names limit = entries.take most ∧
      ∀ m ∈ suggest query names limit, ∀ omitted ∈ entries.drop most, m.RanksBefore omitted) ∧
    (∀ names', names'.Perm names → suggest query names' limit = suggest query names limit) ∧
    ∀ m ∈ suggest query names limit, 1 / 2 ≤ m.similarity.score ∧ m.similarity.score ≤ 1 ∧
      (m.similarity.score = 1 ↔ Text.upper m.name = wanted) := by
  intro wanted most
  have hsuggest (ns : List String) :
      suggest query ns limit = (ranking wanted ns).take most := suggest_eq hquery ns limit
  have hranks := ranks_ranking wanted names
  refine ⟨⟨ranking wanted names, hranks, fun others h => h.unique hranks (.refl _), hsuggest names,
    fun m hm omitted ho => ?_⟩, fun names' hp => ?_, fun m hm => ?_⟩
  · have hordered := hranks.ordered
    rw [← List.take_append_drop most (ranking wanted names)] at hordered
    exact (List.pairwise_append.1 hordered).2.2 m (hsuggest names ▸ hm) omitted ho
  · rw [hsuggest, hsuggest, (ranks_ranking wanted names').unique hranks hp]
  · have hmem := (suggest_sublist query names limit).subset hm
    have hrated := hranks.rated m hmem
    obtain ⟨-, s, score, hrates, hhalf⟩ := hranks.qualified m hmem
    obtain ⟨-, rfl⟩ := hrated.unique hrates
    exact ⟨hhalf, hrated.le_one, hrated.eq_one_iff⟩

/-- A name that is listed twice, one in small letters, one that only starts with the text, one that
is too different and one that is left out. -/
theorem suggest_top_of_ranking_mixed :
    let names := ["F4211FS", "D4211", "", "D4211B", "d4211", "D4200310A", "D4211"]
    Text.isBlank " d4211 " = false ∧
      suggest " d4211 " names 4 = [⟨"D4211", .same⟩, ⟨"D4211", .same⟩, ⟨"d4211", .same⟩,
        ⟨"D4211B", .beginning⟩] ∧
      suggest " d4211 " names.reverse 4 = suggest " d4211 " names 4 ∧
      ∀ m ∈ suggest " d4211 " names 4, 1 / 2 ≤ m.similarity.score := by
  intro names
  have hquery : Text.isBlank " d4211 " = false := by decide +kernel
  obtain ⟨-, hperm, hscore⟩ := suggest_top_of_ranking " d4211 " hquery names 4
  refine ⟨hquery, ?_, hperm _ names.reverse_perm, fun m hm => (hscore m hm).1⟩
  have hranking : ranking "D4211" names = [⟨"D4211", .same⟩, ⟨"D4211", .same⟩, ⟨"d4211", .same⟩,
      ⟨"D4211B", .beginning⟩, ⟨"F4211FS", .edits 3 7⟩] :=
    ranking_eq (by decide +kernel) (by decide +kernel)
  have hwanted : Text.upper (Text.trim " d4211 ") = "D4211" := by decide +kernel
  rw [suggest_eq hquery, hwanted, hranking]
  rfl

end EventRules

/-
**Texts on one line.**

Texts are cut, trimmed, joined and decoded before they are shown.  Only decoding can bring in a line
break that was not there: by a reference with a number, or by the one name in the table that stands
for a line break.  A text without line breaks in which neither occurs is *seamless*, and so is every
piece of it.

Lines are written one after the other, each with a line feed at its end.  They can be told apart
again exactly if no line has a line feed of its own.  The tabs in front of a line are its depth
again exactly if its own text does not start with a tab, so just the *legible* lines are read back
as they were.

Main definitions:

* `Text.OneLine`, `Text.Seamless` — **texts without line breaks**, and those that have none when
  decoded either;
* `Line.body` — a line as it is written, without its line feed;
* `Line.IsLegible` — **lines that can be read back**.

Main results:

* `Text.Seamless.oneLine_unescapeChars` — **a seamless text stays on one line when decoded**;
* `Line.splitOn_renderAll_iff` — **every line is one line of the text exactly if it has no line feed
  of its own**;
* `Line.readAll_renderAll_iff` — exactly the legible lines are read back from their text;
* `Line.legible_lines_read_back` — **so the text says which lines were written**.
-/

import EventRules.Proofs.Dictionaries
import EventRules.Proofs.Paths
import EventRules.Proofs.Protecting
import EventRules.Rule.Line

set_option relaxedAutoImplicit false
set_option autoImplicit false

namespace EventRules

namespace Text

/-! ### Texts without line breaks -/

/-- **A text without line breaks.** -/
def OneLine (cs : List Char) : Prop :=
  ∀ c ∈ cs, c ≠ '\r' ∧ c ≠ '\n'

instance (cs : List Char) : Decidable (OneLine cs) :=
  List.decidableBAll _ cs

@[simp] theorem oneLine_nil : OneLine [] :=
  List.forall_mem_nil _

@[simp] theorem oneLine_cons {c : Char} {cs : List Char} :
    OneLine (c :: cs) ↔ (c ≠ '\r' ∧ c ≠ '\n') ∧ OneLine cs :=
  List.forall_mem_cons

@[simp] theorem oneLine_append {x y : List Char} :
    OneLine (x ++ y) ↔ OneLine x ∧ OneLine y :=
  List.forall_mem_append

theorem OneLine.mono {x y : List Char} (hy : OneLine y) (h : x ⊆ y) : OneLine x :=
  fun c hc => hy c (h hc)

/-- Taking a text out adds no characters. -/
theorem replaceChars_nil_subset (old cs : List Char) : replaceChars old [] cs ⊆ cs := by
  have hfrom (n : Nat) : replaceFrom old [] n cs ⊆ cs := by
    induction cs generalizing n with
    | nil => cases n <;> simp [replaceFrom]
    | cons c cs ih =>
        cases n with
        | succ n => exact List.subset_cons_of_subset c (ih n)
        | zero =>
            rw [replaceFrom]
            split
            · exact List.subset_cons_of_subset c (ih _)
            · exact List.cons_subset_cons c (ih 0)
  exact hfrom 0

theorem oneLine_join {separator : String} (hs : OneLine separator.toList) {texts : List String}
    (h : ∀ t ∈ texts, OneLine t.toList) : OneLine (join separator texts).toList := by
  induction texts with
  | nil => simp [join]
  | cons first texts ih =>
      rw [List.forall_mem_cons] at h
      cases texts with
      | nil => exact h.1
      | cons second texts => simp [join, hs, h.1, ih h.2]

theorem cut_fst_isInfix (separator : Char) (s : String) :
    (cut separator s).1.toList <:+: s.toList := by
  unfold cut
  cases hrest : s.toList.dropWhile (· != separator) with
  | nil => exact List.infix_rfl
  | cons c rest =>
      rw [String.toList_ofList]
      exact (List.takeWhile_prefix _).isInfix

theorem cut_snd_isInfix (separator : Char) (s : String) :
    ((cut separator s).2.getD "").toList <:+: s.toList := by
  unfold cut
  cases hrest : s.toList.dropWhile (· != separator) with
  | nil => exact List.nil_infix
  | cons c rest =>
      have hsuffix := List.dropWhile_suffix (· != separator) (l := s.toList)
      rw [hrest] at hsuffix
      rw [Option.getD_some, String.toList_ofList]
      exact ((List.suffix_cons c rest).trans hsuffix).isInfix

/-! ### References to line breaks -/

/-- The reference by name that stands for a line break. -/
def breakReference : List Char := "&NewLine;".toList

/-- **A text that has no line breaks, nor when it is decoded**: no reference in it has a number, and
none names a line break. -/
structure Seamless (cs : List Char) : Prop where
  oneLine : OneLine cs
  no_number : ¬ ['&', '#'] <:+: cs
  no_name : ¬ breakReference <:+: cs

theorem seamless_iff {cs : List Char} :
    Seamless cs ↔ OneLine cs ∧ ¬ ['&', '#'] <:+: cs ∧ ¬ breakReference <:+: cs :=
  ⟨fun h => ⟨h.oneLine, h.no_number, h.no_name⟩, fun h => ⟨h.1, h.2.1, h.2.2⟩⟩

instance (cs : List Char) : Decidable (Seamless cs) :=
  decidable_of_iff _ seamless_iff.symm

theorem Seamless.mono {x y : List Char} (hy : Seamless y) (h : x <:+: y) : Seamless x :=
  ⟨hy.oneLine.mono h.subset, fun hx => hy.no_number (hx.trans h),
    fun hx => hy.no_name (hx.trans h)⟩

theorem seamless_nil : Seamless [] := by
  decide +kernel

theorem Seamless.trim {s : String} (h : Seamless s.toList) : Seamless (trim s).toList := by
  rw [toList_trim]
  exact h.mono (trimChars_isInfix _)

/-- A quoted text is seamless if the text is. -/
theorem Seamless.quoted {cs : List Char} (h : Seamless cs) : Seamless ('"' :: (cs ++ ['"'])) := by
  have hquoted {z : List Char} (hz : '"' ∉ z) (hne : z ≠ []) (hcs : ¬ z <:+: cs) :
      ¬ z <:+: '"' :: (cs ++ ['"']) := by
    intro hin
    -- the quotes are not in the text that is looked for, so it lies between them
    rcases infix_of_infix_append_cons (x := []) hz hin with hin | hin
    · exact hne (List.infix_nil.1 hin)
    rcases infix_of_infix_append_cons hz hin with hin | hin
    · exact hcs hin
    · exact hne (List.infix_nil.1 hin)
  exact ⟨by simp [h.oneLine], hquoted (by decide) (by simp) h.no_number,
    hquoted (by decide +kernel) (by decide +kernel) h.no_name⟩

/-- One name of the table stands for a line break. -/
theorem oneLine_of_entityChars? {name : String} {found : List Char}
    (h : entityChars? name = some found) : name = "NewLine" ∨ OneLine found := by
  have htable : ∀ e ∈ entities, OneLine (e.2.map Char.ofNat) ∨ e.1 = "NewLine" := by
    decide +kernel
  obtain ⟨numbers, hlookup, rfl⟩ := Option.map_eq_some_iff.1 h
  exact (htable _ (Dictionary.mem_of_lookup hlookup)).symm

/-- This name needs its semicolon. -/
theorem oneLine_of_isOpenEntity {name : String} {found : List Char}
    (ho : isOpenEntity name = true) (h : entityChars? name = some found) : OneLine found := by
  rcases oneLine_of_entityChars? h with rfl | hfound
  · exact absurd ho (by decide +kernel)
  · exact hfound

theorem oneLine_of_openEntity? {letters found : List Char} {most taken : Nat}
    (h : openEntity? letters most = some (found, taken)) : OneLine found := by
  induction most with
  | zero => cases h
  | succ most ih =>
      rw [openEntity?] at h
      split at h
      · cases h
      · dsimp only at h
        split at h
        · next ho =>
            obtain ⟨found', hfound, he⟩ := Option.map_eq_some_iff.1 h
            obtain ⟨rfl, -⟩ := Prod.mk.inj he
            exact oneLine_of_isOpenEntity ho hfound
        · exact ih h

theorem oneLine_of_namedReference? {cs found : List Char} {taken : Nat}
    (hcs : ¬ breakReference <+: '&' :: cs) (h : namedReference? cs = some (found, taken)) :
    OneLine found := by
  rw [namedReference?] at h
  split at h
  · next hclosed =>
      split at h
      · next found' hfound =>
          obtain ⟨rfl, -⟩ := Prod.mk.inj (Option.some.inj h)
          rcases oneLine_of_entityChars? hfound with hname | hline
          · -- The name with its semicolon would be the reference that is not there.
            have hletters : cs.takeWhile isEntityChar = "NewLine".toList := by
              rw [← hname, String.toList_ofList]
            obtain ⟨rest, hrest⟩ := List.head?_eq_some_iff.1 (beq_iff_eq.1 hclosed)
            have hparts : cs = "NewLine".toList ++ ';' :: rest := by
              rw [← hletters, ← hrest]
              exact (List.prefix_iff_eq_append.1 (List.takeWhile_prefix _)).symm
            have hreference : breakReference = '&' :: ("NewLine".toList ++ [';']) := by
              decide +kernel
            exact absurd ⟨rest, by rw [hreference, hparts]; simp⟩ hcs
          · exact hline
      · exact oneLine_of_openEntity? h
  · split at h
    · next ho =>
        obtain ⟨found', hfound, he⟩ := Option.map_eq_some_iff.1 h
        obtain ⟨rfl, -⟩ := Prod.mk.inj he
        exact oneLine_of_isOpenEntity ho hfound
    · exact oneLine_of_openEntity? h

theorem oneLine_of_reference? {cs found : List Char} {taken : Nat} (hcs : Seamless ('&' :: cs))
    (h : reference? cs = some (found, taken)) : OneLine found := by
  unfold reference? at h
  split at h
  · next rest => exact absurd ⟨[], rest, rfl⟩ hcs.no_number
  · exact oneLine_of_namedReference? (fun hfront => hcs.no_name hfront.isInfix) h

/-- **A seamless text stays on one line when it is decoded.** -/
theorem Seamless.oneLine_unescapeChars {cs : List Char} (h : Seamless cs) :
    OneLine (unescapeChars cs) := by
  have hfrom (n : Nat) : OneLine (unescapeFrom n cs) := by
    induction cs generalizing n with
    | nil => cases n <;> simp [unescapeFrom]
    | cons c cs ih =>
        have hrest := ih (h.mono (List.suffix_cons c cs).isInfix)
        cases n with
        | succ n => exact hrest n
        | zero =>
            rw [unescapeFrom]
            split
            · next hc =>
                subst hc
                split
                · next found taken hreference =>
                    exact oneLine_append.2 ⟨oneLine_of_reference? h hreference, hrest taken⟩
                · exact oneLine_cons.2 ⟨by decide, hrest 0⟩
            · exact oneLine_cons.2 ⟨(oneLine_cons.1 h.oneLine).1, hrest 0⟩
  exact hfrom 0

theorem Seamless.oneLine_unescape {s : String} (h : Seamless s.toList) :
    OneLine (unescape s).toList := by
  rw [unescape, String.toList_ofList]
  exact h.oneLine_unescapeChars

theorem length_splitOn (separator : Char) (cs : List Char) :
    (splitOn separator cs).length = cs.count separator + 1 := by
  induction cs with
  | nil => rfl
  | cons c cs ih =>
      rw [splitOn]
      by_cases hc : c = separator
      · simp [hc, ih]
      · rw [if_neg hc, List.count_cons_of_ne hc, ← ih]
        cases hs : splitOn separator cs with
        | nil => exact absurd hs (splitOn_ne_nil separator cs)
        | cons piece pieces => rfl

end Text

/-! ### Lines of a text -/

namespace Line

/-- A line as it is written, without its line feed. -/
def body (l : Line) : List Char :=
  List.replicate l.indent '\t' ++ l.text.toList

theorem toList_renderAll_cons (l : Line) (lines : List Line) :
    (renderAll (l :: lines)).toList = l.body ++ '\n' :: (renderAll lines).toList := by
  simp [renderAll, chars, body]

theorem count_renderAll_cons (l : Line) (lines : List Line) :
    (renderAll (l :: lines)).toList.count '\n' =
      l.text.toList.count '\n' + (renderAll lines).toList.count '\n' + 1 := by
  rw [toList_renderAll_cons, List.count_append, List.count_cons_self, body, List.count_append,
    List.count_replicate]
  simp [Nat.add_assoc]

/-- There is a line feed for each line, and no other if there are not more. -/
theorem count_renderAll (lines : List Line) :
    lines.length ≤ (renderAll lines).toList.count '\n' ∧
      ((renderAll lines).toList.count '\n' = lines.length →
        ∀ l ∈ lines, '\n' ∉ l.text.toList) := by
  induction lines with
  | nil => simp
  | cons l lines ih =>
      rw [count_renderAll_cons, List.length_cons]
      refine ⟨by omega, fun h => List.forall_mem_cons.2 ⟨?_, ih.2 (by omega)⟩⟩
      exact List.count_eq_zero.1 (by omega)

/-- **Every line is one line of the text exactly if no line has a line feed of its own.** -/
theorem splitOn_renderAll_iff (lines : List Line) :
    Text.splitOn '\n' (renderAll lines).toList = lines.map body ++ [[]] ↔
      ∀ l ∈ lines, '\n' ∉ l.text.toList := by
  constructor
  · intro h
    have hlength := congrArg List.length h
    rw [Text.length_splitOn, List.length_append, List.length_map, List.length_singleton] at hlength
    exact (count_renderAll lines).2 (by omega)
  · intro h
    induction lines with
    | nil => rfl
    | cons l lines ih =>
        rw [List.forall_mem_cons] at h
        have hbody : '\n' ∉ l.body := by
          simp [body, h.1]
        rw [toList_renderAll_cons, Text.splitOn_append, Text.splitOn_of_not_mem hbody, ih h.2]
        rfl

/-! ### Reading lines back -/

/-- **A line that can be read back**: its depth can be shown, and its own text could not be taken
for another line or for more depth. -/
structure IsLegible (l : Line) : Prop where
  depth_nonneg : 0 ≤ l.depth
  /-- It has no line feed. -/
  no_feed : '\n' ∉ l.text.toList
  /-- It does not start with a tab. -/
  no_tab : l.text.toList.head? ≠ some '\t'

theorem isLegible_iff {l : Line} :
    l.IsLegible ↔ 0 ≤ l.depth ∧ '\n' ∉ l.text.toList ∧ l.text.toList.head? ≠ some '\t' :=
  ⟨fun h => ⟨h.depth_nonneg, h.no_feed, h.no_tab⟩, fun h => ⟨h.1, h.2.1, h.2.2⟩⟩

instance (l : Line) : Decidable l.IsLegible :=
  decidable_of_iff _ isLegible_iff.symm

/-- The tabs of a line are its depth, and those that its own text starts with. -/
theorem ofChars_body (l : Line) :
    ofChars l.body =
      ⟨(l.indent + (l.text.toList.takeWhile (· == '\t')).length : Nat),
        String.ofList (l.text.toList.dropWhile (· == '\t'))⟩ := by
  have htabs : ∀ c ∈ List.replicate l.indent '\t', (c == '\t') = true := by
    intro c hc
    rw [List.eq_of_mem_replicate hc]
    rfl
  rw [ofChars, body, List.takeWhile_append_of_pos htabs, List.dropWhile_append_of_pos htabs,
    List.length_append, List.length_replicate]

/-- **The depth of a line is read back exactly if it can be shown and the text of the line does not
start with a tab.** -/
theorem ofChars_body_iff (l : Line) :
    ofChars l.body = l ↔ 0 ≤ l.depth ∧ l.text.toList.head? ≠ some '\t' := by
  rw [ofChars_body, indent]
  obtain ⟨depth, text⟩ := l
  have hshown : (depth.toNat : Int) = depth ↔ 0 ≤ depth := by omega
  cases htext : text.toList with
  | nil => simp [String.toList_eq_nil_iff.1 htext, -Int.ofNat_toNat, hshown]
  | cons c cs =>
      by_cases hc : c = '\t'
      · -- one tab more makes one level more
        have hmore (k : Nat) : (depth.toNat + (k + 1) : Int) ≠ depth := by omega
        simp [hc, -Int.ofNat_toNat, hmore]
      · have hback : String.ofList (c :: cs) = text := by rw [← htext, String.ofList_toList]
        simp [hc, hback, -Int.ofNat_toNat, hshown]

/-- **Exactly the legible lines are read back from their text**, in order and number. -/
theorem readAll_renderAll_iff (lines : List Line) :
    readAll (renderAll lines) = lines ↔ ∀ l ∈ lines, l.IsLegible := by
  have hpieces (h : ∀ l ∈ lines, '\n' ∉ l.text.toList) :
      readAll (renderAll lines) = lines.map fun l => ofChars l.body := by
    rw [readAll, (splitOn_renderAll_iff lines).2 h, List.dropLast_concat, List.map_map]
    rfl
  constructor
  · intro h
    -- as many lines are read as there are line feeds, so no line has one of its own
    have hlength := congrArg List.length h
    rw [readAll, List.length_map, List.length_dropLast, Text.length_splitOn,
      Nat.add_sub_cancel] at hlength
    have hfeed := (count_renderAll lines).2 hlength
    have hsame : lines.map (fun l => ofChars l.body) = lines.map id := by
      rw [← hpieces hfeed, h, List.map_id]
    intro l hl
    obtain ⟨hdepth, htab⟩ := (ofChars_body_iff l).1 (List.map_inj_left.1 hsame l hl)
    exact ⟨hdepth, hfeed l hl, htab⟩
  · intro h
    rw [hpieces fun l hl => (h l hl).no_feed]
    refine (List.map_congr_left fun l hl => ?_).trans (List.map_id lines)
    exact (ofChars_body_iff l).2 ⟨(h l hl).depth_nonneg, (h l hl).no_tab⟩

/-- **Legible lines can be read back**, and only these; so two lists of them with the same text are
the same list. -/
theorem legible_lines_read_back :
    (∀ lines, readAll (renderAll lines) = lines ↔ ∀ l ∈ lines, l.IsLegible) ∧
      ∀ lines others : List Line, (∀ l ∈ lines, l.IsLegible) → (∀ l ∈ others, l.IsLegible) →
        renderAll lines = renderAll others → lines = others := by
  refine ⟨readAll_renderAll_iff, fun lines others hlines hothers h => ?_⟩
  calc lines = readAll (renderAll lines) := ((readAll_renderAll_iff lines).2 hlines).symm
    _ = readAll (renderAll others) := by rw [h]
    _ = others := (readAll_renderAll_iff others).2 hothers

/-- Empty lines count, and tabs behind a first character are no depth. -/
theorem legible_lines_read_back_sparse :
    let lines : List Line := [⟨0, ""⟩, ⟨2, "a\tb\t"⟩, ⟨1, ""⟩]
    let others : List Line := readAll "\n\t\ta\tb\t\n\t\n"
    (∀ l ∈ lines, l.IsLegible) ∧ (∀ l ∈ others, l.IsLegible) ∧
      readAll (renderAll lines) = lines ∧ lines = others :=
  ⟨by decide, by decide, (legible_lines_read_back.1 _).2 (by decide),
    legible_lines_read_back.2 _ _ (by decide) (by decide) (by decide)⟩

end Line

end EventRules

/-
**Paths below a base directory.**

A path that is joined from a base directory and a name is cleaned.  What comes out is a *tidy*
path: its names are plain, except for some that lead upwards at the start of a relative path, and
cleaning it once more changes nothing.  So the paths of all names below one base share their
beginning and differ in the last name only, and a path joined to one of them is that path with one
more name.

Main definitions:

* `Path.IsPlain` — names that lead one step down;
* `Path.Kept` — the names that cleaning keeps, the last one first;
* `Path.tidy` — the text of a tidy path.

Main results:

* `Path.names_append` — a slash divides the names of a path;
* `Path.join_eq_tidy`, `Path.join_tidy` — **joining adds one name at the end**;
* `Path.append_of_mem_ancestors` — the directories on the way to a path are beginnings of it.
-/

import EventRules.Files.Path

set_option relaxedAutoImplicit false
set_option autoImplicit false

namespace EventRules

/-! ### Dividing at a separator -/

namespace Text

theorem splitOn_ne_nil (separator : Char) (cs : List Char) : splitOn separator cs ≠ [] := by
  cases cs with
  | nil => simp [splitOn]
  | cons c cs =>
      rw [splitOn]
      split
      · simp
      · split <;> simp

theorem splitOn_append (separator : Char) (before after : List Char) :
    splitOn separator (before ++ separator :: after) =
      splitOn separator before ++ splitOn separator after := by
  induction before with
  | nil => simp [splitOn]
  | cons c before ih =>
      rw [List.cons_append, splitOn, splitOn, ih]
      by_cases hc : c = separator
      · simp [hc]
      · simp only [if_neg hc]
        cases hs : splitOn separator before with
        | nil => exact absurd hs (splitOn_ne_nil _ _)
        | cons piece pieces => rfl

theorem splitOn_of_not_mem {separator : Char} {cs : List Char} (h : separator ∉ cs) :
    splitOn separator cs = [cs] := by
  induction cs with
  | nil => rfl
  | cons c cs ih =>
      obtain ⟨hc, hcs⟩ := not_or.1 (mt List.mem_cons.2 h)
      rw [splitOn, if_neg fun he => hc he.symm, ih hcs]

/-- Joining texts and adding one more is joining all of them. -/
theorem join_append (separator : String) {texts : List String} (h : texts ≠ []) (last : String) :
    join separator (texts ++ [last]) = join separator texts ++ separator ++ last := by
  induction texts with
  | nil => exact absurd rfl h
  | cons first texts ih =>
      cases texts with
      | nil => rfl
      | cons second texts =>
          have hjoin := ih (List.cons_ne_nil _ _)
          simp only [List.cons_append] at hjoin ⊢
          rw [join, hjoin, join]
          simp only [String.append_assoc]

end Text

namespace Path

/-! ### Names -/

theorem names_append (before after : String) :
    names (before ++ "/" ++ after) = names before ++ names after := by
  have hchars : (before ++ "/" ++ after).toList = before.toList ++ '/' :: after.toList := by simp
  rw [names, hchars, Text.splitOn_append, List.map_append]
  rfl

theorem names_of_not_mem {name : String} (h : '/' ∉ name.toList) : names name = [name] := by
  rw [names, Text.splitOn_of_not_mem h]
  simp

theorem names_join {ns : List String} (hne : ns ≠ []) (h : ∀ n ∈ ns, '/' ∉ n.toList) :
    names (Text.join "/" ns) = ns := by
  induction ns with
  | nil => exact absurd rfl hne
  | cons n ns ih =>
      have hn := names_of_not_mem (h n List.mem_cons_self)
      cases ns with
      | nil => exact hn
      | cons m ns =>
          rw [Text.join, names_append, hn,
            ih (List.cons_ne_nil _ _) fun n' hn' => h n' (List.mem_cons_of_mem _ hn')]
          rfl

/-- **A plain name** leads one step down. -/
structure IsPlain (name : String) : Prop where
  /-- It is not empty. -/
  ne_empty : name ≠ ""
  /-- It does not stand for where it is. -/
  ne_dot : name ≠ "."
  /-- It does not lead up. -/
  ne_up : name ≠ ".."
  /-- It is one name. -/
  no_slash : '/' ∉ name.toList

/-- **The names that cleaning keeps**, the last one first: plain ones, and before them in a relative
path some that lead up. -/
inductive Kept (absolute : Bool) : List String → Prop
  | nil : Kept absolute []
  | plain {name : String} {kept : List String} (hn : IsPlain name) (h : Kept absolute kept) :
      Kept absolute (name :: kept)
  | up {kept : List String} (hr : absolute = false) (hu : ∀ last ∈ kept.head?, last = "..")
      (h : Kept absolute kept) : Kept absolute (".." :: kept)

theorem cleanName_plain {absolute : Bool} {kept : List String} {name : String} (h : IsPlain name) :
    cleanName absolute kept name = name :: kept := by
  simp [cleanName, h.ne_empty, h.ne_dot, h.ne_up]

namespace Kept

variable {absolute : Bool} {kept : List String}

/-- One more name of a path is either kept, or takes the last one back, or changes nothing. -/
theorem cleanName (h : Kept absolute kept) {name : String} (hs : '/' ∉ name.toList) :
    Kept absolute (cleanName absolute kept name) := by
  unfold Path.cleanName
  split
  · exact h
  · rename_i hdot
    split
    · cases h with
      | nil =>
          cases absolute with
          | true => exact .nil
          | false => exact .up rfl (by simp) .nil
      | plain hn h =>
          simp only [if_neg hn.ne_up]
          exact h
      | up hr hu h =>
          simp only [if_true]
          exact .up hr (by simp) (.up hr hu h)
    · rename_i hup
      simp only [Bool.or_eq_true, decide_eq_true_eq, not_or] at hdot
      exact .plain ⟨hdot.1, hdot.2, hup, hs⟩ h

/-- So all the names of a path together are cleaned. -/
theorem foldl {ns : List String} (hs : ∀ n ∈ ns, '/' ∉ n.toList) (h : Kept absolute kept) :
    Kept absolute (ns.foldl (Path.cleanName absolute) kept) := by
  induction ns generalizing kept with
  | nil => exact h
  | cons n ns ih =>
      exact ih (fun m hm => hs m (List.mem_cons_of_mem _ hm)) (h.cleanName (hs n List.mem_cons_self))

/-- **Cleaning names that were kept keeps them.** -/
theorem foldl_reverse (h : Kept absolute kept) :
    kept.reverse.foldl (Path.cleanName absolute) [] = kept := by
  induction h with
  | nil => rfl
  | plain hn h ih =>
      rw [List.reverse_cons, List.foldl_append, ih, List.foldl, cleanName_plain hn]
      rfl
  | @up kept hr hu h ih =>
      rw [List.reverse_cons, List.foldl_append, ih, List.foldl]
      cases kept with
      | nil => simp [Path.cleanName, hr]
      | cons last kept =>
          obtain rfl : last = ".." := hu last rfl
          simp [Path.cleanName]

theorem not_mem_slash (h : Kept absolute kept) {n : String} (hn : n ∈ kept) : '/' ∉ n.toList := by
  induction h with
  | nil => cases hn
  | plain hp h ih =>
      rcases List.mem_cons.1 hn with rfl | hn
      · exact hp.no_slash
      · exact ih hn
  | up hr hu h ih =>
      rcases List.mem_cons.1 hn with rfl | hn
      · decide
      · exact ih hn

theorem ne_empty (h : Kept absolute kept) {n : String} (hn : n ∈ kept) : n ≠ "" := by
  induction h with
  | nil => cases hn
  | plain hp h ih =>
      rcases List.mem_cons.1 hn with rfl | hn
      · exact hp.ne_empty
      · exact ih hn
  | up hr hu h ih =>
      rcases List.mem_cons.1 hn with rfl | hn
      · decide
      · exact ih hn

end Kept

/-! ### Tidy paths -/

/-- The text of the path with these names, the last one first. -/
def tidy (absolute : Bool) (kept : List String) : String :=
  (if absolute then "/" else "") ++ Text.join "/" kept.reverse

theorem tidy_cons {absolute : Bool} {kept : List String} (hne : kept ≠ []) (name : String) :
    tidy absolute (name :: kept) = tidy absolute kept ++ "/" ++ name := by
  rw [tidy, tidy, List.reverse_cons, Text.join_append _ (by simpa using hne)]
  simp only [String.append_assoc]

theorem isAbsolute_append {before : String} (h : before ≠ "") (after : String) :
    isAbsolute (before ++ after) = isAbsolute before := by
  have hb : before.toList ≠ [] := by simpa using h
  cases hc : before.toList with
  | nil => exact absurd hc hb
  | cons c cs => simp [isAbsolute, hc]

namespace Kept

variable {absolute : Bool} {kept : List String}

theorem names_tidy (h : Kept absolute kept) (hne : kept ≠ []) :
    names (tidy absolute kept) = (if absolute then [""] else []) ++ kept.reverse := by
  have hjoin : names (Text.join "/" kept.reverse) = kept.reverse :=
    names_join (by simpa using hne) fun n hn => h.not_mem_slash (List.mem_reverse.1 hn)
  cases absolute with
  | true =>
      have hslash : tidy true kept = "" ++ "/" ++ Text.join "/" kept.reverse := rfl
      rw [hslash, names_append, hjoin, names_of_not_mem (by simp)]
      rfl
  | false =>
      have hrelative : tidy false kept = Text.join "/" kept.reverse := by simp [tidy]
      rw [hrelative, hjoin]
      rfl

theorem tidy_ne_empty (h : Kept absolute kept) (hne : kept ≠ []) : tidy absolute kept ≠ "" := by
  intro he
  have hnames := h.names_tidy hne
  rw [he, names_of_not_mem (by simp)] at hnames
  -- a path without characters has one name, which is empty
  cases absolute with
  | true =>
      have hkept : kept.reverse = [] := by simpa using hnames
      exact hne (List.reverse_eq_nil_iff.1 hkept)
  | false =>
      have hmem : "" ∈ kept.reverse := by
        rw [← show [""] = kept.reverse from hnames]
        exact List.mem_singleton_self _
      exact h.ne_empty (List.mem_reverse.1 hmem) rfl

theorem isAbsolute_tidy (h : Kept absolute kept) (hne : kept ≠ []) :
    isAbsolute (tidy absolute kept) = absolute := by
  induction h with
  | nil => exact absurd rfl hne
  | @plain name kept hn h ih =>
      by_cases hk : kept = []
      · subst hk
        cases absolute with
        | true => simp [tidy, isAbsolute]
        | false =>
            have hhead : name.toList.head? ≠ some '/' := fun he =>
              hn.no_slash (List.mem_of_mem_head? he)
            simpa [tidy, isAbsolute, Text.join] using hhead
      · rw [tidy_cons hk, String.append_assoc, isAbsolute_append (h.tidy_ne_empty hk)]
        exact ih hk
  | @up kept hr hu h ih =>
      by_cases hk : kept = []
      · subst hk hr
        decide
      · rw [tidy_cons hk, String.append_assoc, isAbsolute_append (h.tidy_ne_empty hk)]
        exact ih hk

/-- **What cleaning leaves is tidy.** -/
theorem clean_eq_tidy (h : Kept absolute kept) (hne : kept ≠ []) {path : String}
    (ha : isAbsolute path = absolute)
    (hk : (names path).foldl (Path.cleanName absolute) [] = kept) :
    clean path = tidy absolute kept := by
  unfold clean
  simp only [ha, hk]
  cases absolute with
  | true => rfl
  | false =>
      have hrelative : tidy false kept = Text.join "/" kept.reverse := by simp [tidy]
      rw [if_neg Bool.false_ne_true, ← hrelative, if_neg (h.tidy_ne_empty hne)]

/-- **Joining a plain name to a tidy path adds it at the end.** -/
theorem join_tidy (h : Kept absolute kept) (hne : kept ≠ []) {name : String} (hn : IsPlain name) :
    join (tidy absolute kept) name = tidy absolute kept ++ "/" ++ name := by
  rw [join, if_neg (h.tidy_ne_empty hne), ← tidy_cons hne]
  refine (h.plain hn).clean_eq_tidy (List.cons_ne_nil _ _) ?_ ?_
  · rw [tidy_cons hne, String.append_assoc, isAbsolute_append (h.tidy_ne_empty hne),
      h.isAbsolute_tidy hne]
  · rw [tidy_cons hne, names_append, names_of_not_mem hn.no_slash, h.names_tidy hne,
      List.foldl_append, List.foldl_append]
    have hroot : (if absolute then [""] else []).foldl (Path.cleanName absolute) [] = [] := by
      cases absolute <;> rfl
    rw [hroot, h.foldl_reverse, List.foldl, cleanName_plain hn]
    rfl

end Kept

/-! ### Paths below a base directory -/

/-- The names that cleaning keeps of a base directory, the last one first. -/
def keptOf (base : String) : List String :=
  (names base).foldl (cleanName (isAbsolute base)) []

theorem not_mem_slash_of_mem_names {path name : String} (h : name ∈ names path) :
    '/' ∉ name.toList := by
  have hpieces : ∀ cs : List Char, ∀ piece ∈ Text.splitOn '/' cs, '/' ∉ piece := by
    intro cs
    induction cs with
    | nil => simp [Text.splitOn]
    | cons c cs ih =>
        intro piece hp
        rw [Text.splitOn] at hp
        split at hp
        · rcases List.mem_cons.1 hp with rfl | hp
          · exact List.not_mem_nil
          · exact ih piece hp
        · rename_i hc
          split at hp
          · rename_i hs
            exact absurd hs (Text.splitOn_ne_nil _ _)
          · rename_i first rest hs
            rcases List.mem_cons.1 hp with rfl | hp
            · rw [List.mem_cons, not_or]
              exact ⟨fun he => hc he.symm, ih first (hs ▸ List.mem_cons_self)⟩
            · exact ih piece (hs ▸ List.mem_cons_of_mem _ hp)
  obtain ⟨piece, hp, rfl⟩ := List.mem_map.1 h
  simpa using hpieces _ piece hp

theorem kept_keptOf (base : String) : Kept (isAbsolute base) (keptOf base) :=
  Kept.nil.foldl fun _ hn => not_mem_slash_of_mem_names hn

/-- **The path of a plain name below a base directory.** -/
theorem join_eq_tidy (base : String) {name : String} (hn : IsPlain name) :
    join base name = tidy (isAbsolute base) (name :: keptOf base) := by
  have hkept := (kept_keptOf base).plain hn
  unfold join
  split
  · rename_i hb
    subst hb
    rw [if_neg hn.ne_empty]
    refine hkept.clean_eq_tidy (List.cons_ne_nil _ _) ?_ ?_
    · have hhead : name.toList.head? ≠ some '/' := fun he => hn.no_slash (List.mem_of_mem_head? he)
      simpa [isAbsolute] using hhead
    · rw [names_of_not_mem hn.no_slash, List.foldl, cleanName_plain hn]
      rfl
  · rename_i hb
    refine hkept.clean_eq_tidy (List.cons_ne_nil _ _) ?_ ?_
    · rw [String.append_assoc, isAbsolute_append hb]
    · rw [names_append, names_of_not_mem hn.no_slash, List.foldl_append, List.foldl,
        cleanName_plain hn]
      rfl

/-- The names on the way to the paths below a base directory. -/
def namesOn (base : String) : List String :=
  (if isAbsolute base then [""] else []) ++ (keptOf base).reverse

/-- **The paths below a base directory differ in their last names only.** -/
theorem names_join_base (base : String) {name : String} (hn : IsPlain name) :
    names (join base name) = namesOn base ++ [name] := by
  rw [join_eq_tidy base hn, ((kept_keptOf base).plain hn).names_tidy (List.cons_ne_nil _ _),
    List.reverse_cons, namesOn, List.append_assoc]

theorem isAbsolute_join_base (base : String) {name : String} (hn : IsPlain name) :
    isAbsolute (join base name) = isAbsolute base := by
  rw [join_eq_tidy base hn, ((kept_keptOf base).plain hn).isAbsolute_tidy (List.cons_ne_nil _ _)]

theorem join_base_ne_empty (base : String) {name : String} (hn : IsPlain name) :
    join base name ≠ "" := by
  rw [join_eq_tidy base hn]
  exact ((kept_keptOf base).plain hn).tidy_ne_empty (List.cons_ne_nil _ _)

/-- A path below a path below a base directory is that path with one more name. -/
theorem join_join_base (base : String) {name below : String} (hn : IsPlain name)
    (hb : IsPlain below) : join (join base name) below = join base name ++ "/" ++ below := by
  rw [join_eq_tidy base hn]
  exact ((kept_keptOf base).plain hn).join_tidy (List.cons_ne_nil _ _) hb

/-! ### Directories on the way -/

theorem append_of_mem_ancestorsFrom {before cs : List Char} {ancestor : String}
    (h : ancestor ∈ ancestorsFrom before cs) :
    ancestor ≠ "" ∧ ∃ rest, before.reverse ++ cs = ancestor.toList ++ '/' :: rest := by
  induction cs generalizing before with
  | nil => cases h
  | cons c cs ih =>
      rw [ancestorsFrom] at h
      have hlater (hm : ancestor ∈ ancestorsFrom (c :: before) cs) :
          ancestor ≠ "" ∧ ∃ rest, before.reverse ++ c :: cs = ancestor.toList ++ '/' :: rest := by
        obtain ⟨hne, rest, hr⟩ := ih hm
        exact ⟨hne, rest, by simpa using hr⟩
      split at h
      · rename_i hc
        rcases List.mem_cons.1 h with rfl | h
        · simp only [Bool.and_eq_true, decide_eq_true_eq, Bool.not_eq_true',
            List.isEmpty_eq_false_iff] at hc
          refine ⟨?_, cs, by simp [hc.1]⟩
          simpa [String.ext_iff] using hc.2
        · exact hlater h
      · exact hlater h

/-- **The directories on the way to a path are beginnings of it.** -/
theorem append_of_mem_ancestors {path ancestor : String} (h : ancestor ∈ ancestors path) :
    ancestor ≠ "" ∧ ∃ rest, path = ancestor ++ "/" ++ rest := by
  obtain ⟨hne, rest, hr⟩ := append_of_mem_ancestorsFrom h
  refine ⟨hne, String.ofList rest, ?_⟩
  rw [String.ext_iff]
  simpa using hr

end Path

end EventRules

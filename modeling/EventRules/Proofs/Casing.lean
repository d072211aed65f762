/-
**Two ways to overlook letter case.**

Names are compared by their upper-case forms in one place and by case folding in another.  Nearly
all letters have the same upper-case form exactly if they are folded alike, so that it does not
matter which way is taken.  Nine letters are the exception: the dotless `ı` shares its upper-case
form with `i` but is not folded together with it, and eight others, the signs for Kelvin, Ångström
and Ohm among them, are folded together with a letter although their upper-case form is their own.

This is a fact about two tables of more than a thousand letters each.  To go through all of them,
each table is put into a search tree, where a letter is found without passing all the runs before
it.

Main definitions:

* `Text.RunTree` — the runs of a table as a search tree;
* `Text.irregularLetters` — the nine letters.

Main results:

* `Text.RunTree.seek_ofRuns` — the tree maps as the table does;
* `Text.foldChar_eq_iff` — **apart from nine letters the two ways are one**;
* `Text.isSpace_foldChar`, `Text.isSpace_upperChar` — a letter stays a letter in both.
-/

import EventRules.Proofs.Keys

set_option relaxedAutoImplicit false
set_option autoImplicit false

namespace EventRules.Text

/-! ### Runs as a search tree -/

/-- The number that a list of runs maps a number to. -/
def mapNumber (n : Nat) : List CaseRun → Nat
  | [] => n
  | (first, last, step, target) :: runs =>
      bif Nat.ble first n && Nat.ble n last && Nat.beq ((n - first) % step) 0 then
        target + (n - first)
      else mapNumber n runs

theorem mapNumber_of_contains {r : CaseRun} {n : Nat} (h : r.contains n = true)
    (runs : List CaseRun) : mapNumber n (r :: runs) = r.2.2.2 + (n - r.1) := by
  have htest : (Nat.ble r.1 n && Nat.ble n r.2.1 && Nat.beq ((n - r.1) % r.2.2.1) 0) = true := by
    simpa [Nat.ble_eq, Nat.beq_eq, and_assoc] using CaseRun.contains_iff.1 h
  rw [mapNumber, htest, cond_true]

theorem mapNumber_of_not_contains {r : CaseRun} {n : Nat} (h : r.contains n = false)
    (runs : List CaseRun) : mapNumber n (r :: runs) = mapNumber n runs := by
  have htest : (Nat.ble r.1 n && Nat.ble n r.2.1 && Nat.beq ((n - r.1) % r.2.2.1) 0) = false := by
    rw [← Bool.not_eq_true, CaseRun.contains_iff] at h
    rw [← Bool.not_eq_true]
    simpa [Nat.ble_eq, Nat.beq_eq, and_assoc] using h
  rw [mapNumber, htest, cond_false]

theorem mapNumber_append {xs ys : List CaseRun} {n : Nat}
    (h : ∀ r ∈ xs, r.contains n = false) : mapNumber n (xs ++ ys) = mapNumber n ys := by
  induction xs with
  | nil => rfl
  | cons r xs ih =>
      rw [List.cons_append, mapNumber_of_not_contains (h r List.mem_cons_self),
        ih fun q hq => h q (List.mem_cons_of_mem _ hq)]

theorem mapNumber_append_left {xs ys : List CaseRun} {n : Nat}
    (h : ∀ r ∈ ys, r.contains n = false) : mapNumber n (xs ++ ys) = mapNumber n xs := by
  induction xs with
  | nil =>
      have hnone : mapNumber n (ys ++ []) = mapNumber n [] := mapNumber_append h
      rwa [List.append_nil] at hnone
  | cons r xs ih =>
      rw [List.cons_append]
      cases hr : r.contains n with
      | true => rw [mapNumber_of_contains hr, mapNumber_of_contains hr]
      | false => rw [mapNumber_of_not_contains hr, mapNumber_of_not_contains hr, ih]

/-- Letters are mapped as their numbers are. -/
theorem toNat_mapRuns {runs : List CaseRun}
    (h : ∀ r ∈ runs, r.lastTarget < 0xD800 ∨ 0xDFFF < r.2.2.2 ∧ r.lastTarget < 0x110000)
    (c : Char) : (mapRuns runs c).toNat = mapNumber c.toNat runs := by
  induction runs with
  | nil => rfl
  | cons r runs ih =>
      cases hr : r.contains c.toNat with
      | true =>
          obtain ⟨hfirst, hlast, -⟩ := CaseRun.contains_iff.1 hr
          have hends := h r List.mem_cons_self
          have hvalid : (r.2.2.2 + (c.toNat - r.1)).isValidChar := by
            simp only [CaseRun.lastTarget] at hends
            simp only [Nat.isValidChar]
            omega
          have hfind : (r :: runs).find? (·.contains c.toNat) = some r := List.find?_cons_of_pos hr
          rw [mapNumber_of_contains hr, mapRuns, hfind]
          dsimp only
          rw [Char.ofNat, dif_pos hvalid]
          rfl
      | false =>
          have hfind : (r :: runs).find? (·.contains c.toNat) =
              runs.find? (·.contains c.toNat) := List.find?_cons_of_neg (by simp [hr])
          rw [mapNumber_of_not_contains hr, ← ih fun q hq => h q (List.mem_cons_of_mem _ hq),
            mapRuns, hfind, mapRuns]

/-- **Runs as a search tree**: the runs on the left end before the pivot, those on the right begin
there or later. -/
inductive RunTree
  | leaf (runs : List CaseRun)
  | node (pivot : Nat) (left right : RunTree)

namespace RunTree

/-- The runs of a tree. -/
def runs : RunTree → List CaseRun
  | leaf runs => runs
  | node _ left right => left.runs ++ right.runs

/-- The number that the runs of a tree map a number to. -/
def seek (n : Nat) : RunTree → Nat
  | leaf runs => mapNumber n runs
  | node pivot left right => bif Nat.blt n pivot then left.seek n else right.seek n

theorem seek_node_left {pivot n : Nat} (h : n < pivot) (left right : RunTree) :
    (node pivot left right).seek n = left.seek n := by
  have hn : Nat.blt n pivot = true := by
    rw [Nat.blt_eq]
    exact h
  rw [seek, hn, cond_true]

theorem seek_node_right {pivot n : Nat} (h : ¬ n < pivot) (left right : RunTree) :
    (node pivot left right).seek n = right.seek n := by
  have hn : Nat.blt n pivot = false := by
    rw [← Bool.not_eq_true, Nat.blt_eq]
    exact h
  rw [seek, hn, cond_false]

/-- Are the runs where they belong? -/
def isOrdered : RunTree → Bool
  | leaf _ => true
  | node pivot left right =>
      left.isOrdered && right.isOrdered && left.runs.all (fun r => Nat.blt r.2.1 pivot) &&
        right.runs.all fun r => Nat.ble pivot r.1

theorem seek_eq {t : RunTree} (h : t.isOrdered = true) (n : Nat) :
    t.seek n = mapNumber n t.runs := by
  induction t with
  | leaf runs => rfl
  | node pivot left right ihleft ihright =>
      simp only [isOrdered, Bool.and_eq_true, List.all_eq_true, Nat.blt_eq, Nat.ble_eq] at h
      obtain ⟨⟨⟨hleft, hright⟩, hbefore⟩, hafter⟩ := h
      rw [runs]
      by_cases hn : n < pivot
      · rw [seek_node_left hn, ihleft hleft, mapNumber_append_left]
        intro r hr
        rw [← Bool.not_eq_true, CaseRun.contains_iff]
        have hfirst := hafter r hr
        omega
      · rw [seek_node_right hn, ihright hright, mapNumber_append]
        intro r hr
        rw [← Bool.not_eq_true, CaseRun.contains_iff]
        have hlast := hbefore r hr
        omega

/-- The tree of a table, so many levels high. -/
def ofRuns : Nat → List CaseRun → RunTree
  | 0, runs => leaf runs
  | levels + 1, runs =>
      match runs.drop (runs.length / 2) with
      | [] => leaf runs
      | r :: rest =>
          node r.1 (ofRuns levels (runs.take (runs.length / 2))) (ofRuns levels (r :: rest))

theorem runs_ofRuns (levels : Nat) (rs : List CaseRun) : (ofRuns levels rs).runs = rs := by
  induction levels generalizing rs with
  | zero => rfl
  | succ levels ih =>
      rw [ofRuns]
      split
      · rfl
      · rename_i r rest hdrop
        rw [runs, ih, ih, ← hdrop, List.take_append_drop]

/-- **A tree maps as the table does.** -/
theorem seek_ofRuns {levels : Nat} {rs : List CaseRun} (h : (ofRuns levels rs).isOrdered = true)
    (n : Nat) : (ofRuns levels rs).seek n = mapNumber n rs := by
  rw [seek_eq h, runs_ofRuns]

end RunTree

/-! ### Going through all letters -/

/-- Does a test hold of so many numbers, a step apart, and what they are mapped to? -/
def allFrom (p : Nat → Nat → Bool) (step n m : Nat) : Nat → Bool
  | 0 => true
  | count + 1 => p (n + step * count) (m + step * count) && allFrom p step n m count

theorem allFrom_apply {p : Nat → Nat → Bool} {step n m count : Nat}
    (h : allFrom p step n m count = true) {i : Nat} (hi : i < count) :
    p (n + step * i) (m + step * i) = true := by
  induction count with
  | zero => exact absurd hi (Nat.not_lt_zero i)
  | succ count ih =>
      rw [allFrom, Bool.and_eq_true] at h
      rcases Nat.lt_succ_iff_lt_or_eq.1 hi with hlt | rfl
      · exact ih h.2 hlt
      · exact h.1

/-- Does a test hold of all letters of a run and what they are mapped to? -/
def CaseRun.all (p : Nat → Nat → Bool) (r : CaseRun) : Bool :=
  allFrom p r.2.2.1 r.1 r.2.2.2 ((r.2.1 - r.1) / r.2.2.1 + 1)

theorem CaseRun.all_apply {p : Nat → Nat → Bool} {r : CaseRun} (h : r.all p = true) {n : Nat}
    (hn : r.contains n = true) : p n (r.2.2.2 + (n - r.1)) = true := by
  obtain ⟨hfirst, hlast, hstep⟩ := CaseRun.contains_iff.1 hn
  have hcount : (n - r.1) / r.2.2.1 < (r.2.1 - r.1) / r.2.2.1 + 1 :=
    Nat.lt_succ_of_le (Nat.div_le_div_right (by omega))
  have hletter := allFrom_apply h hcount
  have hplace : r.2.2.1 * ((n - r.1) / r.2.2.1) = n - r.1 :=
    Nat.mul_div_cancel' (Nat.dvd_of_mod_eq_zero hstep)
  rwa [hplace, Nat.add_sub_cancel' hfirst] at hletter

/-- What holds of all letters of a table holds of every number that the table changes. -/
theorem mapNumber_all {p : Nat → Nat → Bool} {runs : List CaseRun}
    (h : (runs.all fun r => r.all p) = true) (n : Nat) :
    mapNumber n runs = n ∨ p n (mapNumber n runs) = true := by
  induction runs with
  | nil => exact .inl rfl
  | cons r runs ih =>
      rw [List.all_cons, Bool.and_eq_true] at h
      cases hr : r.contains n with
      | true =>
          rw [mapNumber_of_contains hr]
          exact .inr (CaseRun.all_apply h.1 hr)
      | false =>
          rw [mapNumber_of_not_contains hr]
          exact ih h.2

/-! ### The two tables -/

/-- The capital letters of ASCII. -/
def capitalRun : CaseRun := (0x41, 0x5A, 1, 0x61)

/-- The letters that have an upper-case form. -/
def upperTree : RunTree :=
  .node 0x80 (.leaf [smallRun]) (.ofRuns 7 upperRuns)

/-- The letters that are folded. -/
def foldTree : RunTree :=
  .node 0x80 (.leaf [capitalRun]) (.ofRuns 7 foldRuns)

theorem upperTree_isOrdered : upperTree.isOrdered = true := by
  decide +kernel

theorem foldTree_isOrdered : foldTree.isOrdered = true := by
  decide +kernel

theorem foldRuns_valid : ∀ r ∈ foldRuns,
    r.lastTarget < 0xD800 ∨ 0xDFFF < r.2.2.2 ∧ r.lastTarget < 0x110000 := by
  decide +kernel

theorem seek_ascii : ∀ n < 0x80,
    (upperChar (Char.ofNat n)).toNat = upperTree.seek n ∧
      (foldChar (Char.ofNat n)).toNat = foldTree.seek n := by
  decide +kernel

namespace RunTree

theorem isOrdered_right {pivot : Nat} {left right : RunTree}
    (h : (node pivot left right).isOrdered = true) : right.isOrdered = true := by
  simp only [isOrdered, Bool.and_eq_true] at h
  exact h.1.1.2

/-- What holds of all letters of a tree holds of every number that the tree changes. -/
theorem seek_all {t : RunTree} (ht : t.isOrdered = true) {p : Nat → Nat → Bool}
    (h : (t.runs.all fun r => r.all p) = true) (n : Nat) :
    t.seek n = n ∨ p n (t.seek n) = true := by
  rw [seek_eq ht]
  exact mapNumber_all h n

end RunTree

theorem toNat_upperChar (c : Char) : (upperChar c).toNat = upperTree.seek c.toNat := by
  by_cases hc : c.toNat < 0x80
  · simpa using (seek_ascii c.toNat hc).1
  · rw [upperChar, if_neg hc, toNat_mapRuns upperRuns_valid, upperTree, RunTree.seek_node_right hc,
      RunTree.seek_ofRuns (RunTree.isOrdered_right upperTree_isOrdered)]

theorem toNat_foldChar (c : Char) : (foldChar c).toNat = foldTree.seek c.toNat := by
  by_cases hc : c.toNat < 0x80
  · simpa using (seek_ascii c.toNat hc).2
  · rw [foldChar, if_neg hc, toNat_mapRuns foldRuns_valid, foldTree, RunTree.seek_node_right hc,
      RunTree.seek_ofRuns (RunTree.isOrdered_right foldTree_isOrdered)]

/-! ### Letters for which the two ways differ -/

/-- **The letters for which the two ways differ.** -/
def irregularLetters : List Nat :=
  [0x131, 0x390, 0x3B0, 0x3F4, 0x1E9E, 0x2126, 0x212A, 0x212B, 0xFB05]

/-- For every other letter it does not matter whether its upper-case form is taken first. -/
theorem upper_regular : (upperTree.runs.all fun r => r.all fun n m =>
    Nat.beq (foldTree.seek m) (foldTree.seek n) || irregularLetters.contains n) = true := by
  decide +kernel

theorem fold_regular : (foldTree.runs.all fun r => r.all fun n m =>
    Nat.beq (upperTree.seek m) (upperTree.seek n) || irregularLetters.contains n) = true := by
  decide +kernel

theorem foldChar_upperChar {c : Char} (h : c.toNat ∉ irregularLetters) :
    foldChar (upperChar c) = foldChar c := by
  refine Char.toNat_inj.1 ?_
  rw [toNat_foldChar, toNat_foldChar, toNat_upperChar]
  rcases RunTree.seek_all upperTree_isOrdered upper_regular c.toNat with hsame | hp
  · rw [hsame]
  · simpa [h] using hp

theorem upperChar_foldChar {c : Char} (h : c.toNat ∉ irregularLetters) :
    upperChar (foldChar c) = upperChar c := by
  refine Char.toNat_inj.1 ?_
  rw [toNat_upperChar, toNat_upperChar, toNat_foldChar]
  rcases RunTree.seek_all foldTree_isOrdered fold_regular c.toNat with hsame | hp
  · rw [hsame]
  · simpa [h] using hp

/-- **Apart from the irregular letters the two ways are one.** -/
theorem foldChar_eq_iff {c d : Char} (hc : c.toNat ∉ irregularLetters)
    (hd : d.toNat ∉ irregularLetters) : foldChar c = foldChar d ↔ upperChar c = upperChar d := by
  constructor
  · intro h
    rw [← upperChar_foldChar hc, h, upperChar_foldChar hd]
  · intro h
    rw [← foldChar_upperChar hc, h, foldChar_upperChar hd]

/-- Each of the nine letters differs from a regular one in one way only. -/
example : ∀ p ∈ irregularLetters.zip [0x69, 0x1FD3, 0x1FE3, 0x3B8, 0xDF, 0x3C9, 0x6B, 0xE5, 0xFB06],
    (foldChar (Char.ofNat p.1) == foldChar (Char.ofNat p.2)) =
      !(upperChar (Char.ofNat p.1) == upperChar (Char.ofNat p.2)) := by
  decide +kernel

/-! ### White space -/

theorem isSpace_upperChar (c : Char) : isSpace (upperChar c) = isSpace c := by
  cases hc : isSpace c with
  | true => rw [upperChar_of_isSpace hc, hc]
  | false => exact (upperChar_settled c).2 hc

theorem isSpace_fold_irregular : ∀ n ∈ irregularLetters,
    isSpace (foldChar (Char.ofNat n)) = isSpace (Char.ofNat n) := by
  decide +kernel

theorem isSpace_foldChar (c : Char) : isSpace (foldChar c) = isSpace c := by
  by_cases hc : c.toNat ∈ irregularLetters
  · simpa using isSpace_fold_irregular c.toNat hc
  · rw [← isSpace_upperChar, upperChar_foldChar hc, isSpace_upperChar]

end EventRules.Text

/-
**Keys of names.**

A key is a name without its outer white space, in upper case.  Doing the same to a key gives that
key again: an upper-case form has no other upper-case form, and no letter becomes white space.  For
the letters beyond ASCII both have to be read off the table.  No run of the table contains what a
run maps to, which can be seen from the ends of two runs and from their steps, without going through
all the letters.

Keys are listed in the order of their characters, and this is the order of their UTF-8 bytes: more
bytes are needed for later characters only, and the first byte tells how many.

Main definitions:

* `Text.CaseRun.misses` — a run does not contain what another one maps to.

Main results:

* `Text.upperChar_settled` — upper-case forms stay as they are;
* `catalogKey_catalogKey` — **a key is its own key**;
* `Utf8.encode_lt` — **the order of texts is that of their bytes**.
-/

import Mathlib.Data.List.DropRight
import EventRules.CatalogKey
import EventRules.Proofs.Decoding
import EventRules.Proofs.Stretches

set_option relaxedAutoImplicit false
set_option autoImplicit false

namespace EventRules

namespace Text

/-! ### Upper-case forms -/

namespace CaseRun

/-- The last character that a run maps to. -/
def lastTarget (r : CaseRun) : Nat :=
  r.2.2.2 + (r.2.1 - r.1)

/-- A run `q` does not contain what `r` maps to: that comes before it, or after it, or between its
characters. -/
def misses (r q : CaseRun) : Bool :=
  Nat.blt r.lastTarget q.1 || Nat.blt q.2.1 r.2.2.2 ||
    (q.2.2.1 == 2 && (r.2.2.1 == 2 || r.1 == r.2.1) && (r.2.2.2 + q.1) % 2 == 1)

theorem contains_iff {r : CaseRun} {n : Nat} :
    r.contains n = true ↔ r.1 ≤ n ∧ n ≤ r.2.1 ∧ (n - r.1) % r.2.2.1 = 0 := by
  simp [contains, and_assoc]

theorem misses_iff {r q : CaseRun} :
    r.misses q = true ↔ r.2.2.2 + (r.2.1 - r.1) < q.1 ∨ q.2.1 < r.2.2.2 ∨
      q.2.2.1 = 2 ∧ (r.2.2.1 = 2 ∨ r.1 = r.2.1) ∧ (r.2.2.2 + q.1) % 2 = 1 := by
  simp [misses, lastTarget, Nat.blt_eq, or_assoc, and_assoc]

theorem not_contains_of_misses {r q : CaseRun} {n : Nat} (h : r.misses q = true)
    (hn : r.contains n = true) : q.contains (r.2.2.2 + (n - r.1)) = false := by
  obtain ⟨hfirst, hlast, hstep⟩ := contains_iff.1 hn
  rw [← Bool.not_eq_true, contains_iff]
  rintro ⟨hfirst', hlast', hstep'⟩
  rcases misses_iff.1 h with hbefore | hafter | ⟨htwo, hr, hodd⟩
  · omega
  · omega
  · rw [htwo] at hstep'
    rcases hr with hr | hr
    · rw [hr] at hstep
      omega
    · omega

end CaseRun

/-- White space as runs of characters. -/
def spaceRuns : List CaseRun :=
  [(0x09, 0x0D, 1, 0x09), (0x20, 0x20, 1, 0x20), (0x85, 0x85, 1, 0x85), (0xA0, 0xA0, 1, 0xA0),
    (0x1680, 0x1680, 1, 0x1680), (0x2000, 0x200A, 1, 0x2000), (0x2028, 0x2029, 1, 0x2028),
    (0x202F, 0x202F, 1, 0x202F), (0x205F, 0x205F, 1, 0x205F), (0x3000, 0x3000, 1, 0x3000)]

/-- The small letters of ASCII. -/
def smallRun : CaseRun := (0x61, 0x7A, 1, 0x41)

theorem exists_run_of_isSpace {c : Char} (h : isSpace c = true) :
    ∃ q ∈ spaceRuns, q.contains c.toNat = true := by
  simp only [isSpace, Bool.or_eq_true, Bool.and_eq_true, beq_iff_eq, decide_eq_true_eq] at h
  simp only [spaceRuns, List.mem_cons, List.not_mem_nil, or_false, exists_eq_or_imp,
    exists_eq_left, CaseRun.contains_iff, Nat.mod_one, and_true]
  omega

theorem toUpper_eq {c : Char} (h : smallRun.contains c.toNat = false) : c.toUpper = c := by
  rw [← Bool.not_eq_true, CaseRun.contains_iff] at h
  unfold Char.toUpper
  split
  · rename_i hsmall
    exact absurd ⟨hsmall.1, hsmall.2, Nat.mod_one _⟩ h
  · rfl

/-- What a run maps to is in none of the runs, is no white space and no small letter of ASCII. -/
theorem upperRuns_miss :
    (upperRuns.all fun r => (smallRun :: (spaceRuns ++ upperRuns)).all fun q => r.misses q) =
      true := by
  decide +kernel

/-- What a run maps to are characters. -/
theorem upperRuns_valid : ∀ r ∈ upperRuns,
    r.lastTarget < 0xD800 ∨ 0xDFFF < r.2.2.2 ∧ r.lastTarget < 0x110000 := by
  decide +kernel

theorem mapRuns_cases (runs : List CaseRun) (c : Char) :
    mapRuns runs c = c ∨ ∃ r ∈ runs, r.contains c.toNat = true ∧
      mapRuns runs c = Char.ofNat (r.2.2.2 + (c.toNat - r.1)) := by
  unfold mapRuns
  cases hr : runs.find? (·.contains c.toNat) with
  | none => exact .inl rfl
  | some r =>
      have hcontains : r.contains c.toNat = true :=
        List.find?_some (p := fun r : CaseRun => r.contains c.toNat) hr
      exact .inr ⟨r, List.mem_of_find?_eq_some hr, hcontains, rfl⟩

/-- The characters of ASCII one by one. -/
theorem upperChar_ascii : ∀ n < 0x80,
    upperChar (upperChar (Char.ofNat n)) = upperChar (Char.ofNat n) ∧
      (isSpace (Char.ofNat n) = false → isSpace (upperChar (Char.ofNat n)) = false) := by
  decide +kernel

/-- What a run maps to is its own upper-case form. -/
theorem upperChar_target {r : CaseRun} {n : Nat} (hr : r ∈ upperRuns) (hn : r.contains n = true) :
    upperChar (Char.ofNat (r.2.2.2 + (n - r.1))) = Char.ofNat (r.2.2.2 + (n - r.1)) ∧
      isSpace (Char.ofNat (r.2.2.2 + (n - r.1))) = false := by
  obtain ⟨hfirst, hlast, -⟩ := CaseRun.contains_iff.1 hn
  have hmiss : ∀ q ∈ smallRun :: (spaceRuns ++ upperRuns),
      q.contains (r.2.2.2 + (n - r.1)) = false := fun q hq =>
    CaseRun.not_contains_of_misses (List.all_eq_true.1 (List.all_eq_true.1 upperRuns_miss r hr) q hq)
      hn
  have hvalid : (r.2.2.2 + (n - r.1)).isValidChar := by
    have hends := upperRuns_valid r hr
    simp only [CaseRun.lastTarget] at hends
    simp only [Nat.isValidChar]
    omega
  have hnumber : (Char.ofNat (r.2.2.2 + (n - r.1))).toNat = r.2.2.2 + (n - r.1) := by
    rw [Char.ofNat, dif_pos hvalid]
    rfl
  generalize r.2.2.2 + (n - r.1) = m at hmiss hnumber
  constructor
  · unfold upperChar
    split
    · exact toUpper_eq (by rw [hnumber]; exact hmiss _ List.mem_cons_self)
    · have hnone : upperRuns.find? (·.contains (Char.ofNat m).toNat) = none := by
        rw [List.find?_eq_none, hnumber]
        intro q hq
        rw [hmiss q (List.mem_cons_of_mem _ (List.mem_append_right _ hq))]
        exact Bool.false_ne_true
      rw [mapRuns, hnone]
  · rw [← Bool.not_eq_true]
    intro hspace
    obtain ⟨q, hq, hcontains⟩ := exists_run_of_isSpace hspace
    rw [hnumber, hmiss q (List.mem_cons_of_mem _ (List.mem_append_left _ hq))] at hcontains
    exact absurd hcontains Bool.false_ne_true

/-- **An upper-case form stays as it is**, and is no white space unless the letter was. -/
theorem upperChar_settled (c : Char) :
    upperChar (upperChar c) = upperChar c ∧
      (isSpace c = false → isSpace (upperChar c) = false) := by
  by_cases hc : c.toNat < 0x80
  · have hascii := upperChar_ascii c.toNat hc
    rwa [Char.ofNat_toNat] at hascii
  · have hmap : upperChar c = mapRuns upperRuns c := if_neg hc
    rcases mapRuns_cases upperRuns c with hsame | ⟨r, hr, hcontains, htarget⟩
    · have hself : upperChar c = c := hmap.trans hsame
      rw [hself]
      exact ⟨hself, id⟩
    · obtain ⟨hself, hspace⟩ := upperChar_target hr hcontains
      rw [hmap, htarget]
      exact ⟨hself, fun _ => hspace⟩

/-! ### Trimmed texts -/

theorem isTrimmed_trimChars (cs : List Char) : IsTrimmed (trimChars cs) := by
  have hleft : ∀ l : List Char, (l.dropWhile isSpace).head?.any isSpace = false := by
    intro l
    have hhead := List.head?_dropWhile_not isSpace l
    cases h : (l.dropWhile isSpace).head? with
    | none => rfl
    | some c =>
        rw [h] at hhead
        exact hhead
  constructor
  · -- a text keeps its first character when its end is cut off, as long as anything is left
    obtain ⟨rest, hrest⟩ : trimChars cs <+: trimLeftChars cs :=
      List.rdropWhile_prefix isSpace _
    have hhead := hleft cs
    cases ht : trimChars cs with
    | nil => rfl
    | cons c t =>
        rw [ht] at hrest
        rw [← trimLeftChars, ← hrest] at hhead
        exact hhead
  · rw [trimChars, trimRightChars, List.getLast?_reverse]
    exact hleft _

theorem IsTrimmed.map_upperChar {cs : List Char} (h : IsTrimmed cs) :
    IsTrimmed (cs.map upperChar) := by
  have hany : ∀ o : Option Char, o.any isSpace = false → (o.map upperChar).any isSpace = false := by
    intro o ho
    cases o with
    | none => rfl
    | some c => exact (upperChar_settled c).2 ho
  constructor
  · rw [List.head?_map]
    exact hany _ h.1
  · rw [List.getLast?_map]
    exact hany _ h.2

end Text

/-- **A key is its own key.** -/
theorem catalogKey_catalogKey (name : String) : catalogKey (catalogKey name) = catalogKey name := by
  have htrimmed := (Text.isTrimmed_trimChars name.toList).map_upperChar
  have hupper : Text.upperChar ∘ Text.upperChar = Text.upperChar :=
    funext fun c => (Text.upperChar_settled c).1
  refine String.toList_inj.1 ?_
  simp only [catalogKey, Text.toList_upper, Text.toList_trim]
  rw [htrimmed.trimChars, List.map_map, hupper]

/-! ### The order of keys -/

namespace Utf8

theorem cons_lt_cons {m n : Nat} (hm : m < 256) (hn : n < 256) {xs ys : Bytes} :
    UInt8.ofNat m :: xs < UInt8.ofNat n :: ys ↔ m < n ∨ m = n ∧ xs < ys := by
  rw [List.cons_lt_cons_iff, ofNat_lt hm, ofNat_eq hm, toNat_ofNat hn]

theorem cons_lt_cons_of_lt {m n : Nat} (h : m < n) (hn : n < 256) (xs ys : Bytes) :
    UInt8.ofNat m :: xs < UInt8.ofNat n :: ys :=
  (cons_lt_cons (Nat.lt_trans h hn) hn).2 (.inl h)

/-- Sequences of the same length are in the order of their numbers, whatever follows the two. -/
theorem map_ofNat_lt {ms ns : List Nat} (h : ms < ns) (hlength : ms.length = ns.length)
    (hm : ∀ m ∈ ms, m < 256) (hn : ∀ n ∈ ns, n < 256) (xs ys : Bytes) :
    ms.map UInt8.ofNat ++ xs < ns.map UInt8.ofNat ++ ys := by
  induction ms generalizing ns with
  | nil =>
      cases ns with
      | nil => exact absurd h (List.not_lt_nil _)
      | cons n ns => cases hlength
  | cons m ms ih =>
      cases ns with
      | nil => cases hlength
      | cons n ns =>
          refine (cons_lt_cons (hm m List.mem_cons_self) (hn n List.mem_cons_self)).2 ?_
          refine (List.cons_lt_cons_iff.1 h).imp_right fun ⟨heq, hlt⟩ => ⟨heq, ?_⟩
          exact ih hlt (Nat.succ.inj hlength) (fun m hm' => hm m (List.mem_cons_of_mem _ hm'))
            (fun n hn' => hn n (List.mem_cons_of_mem _ hn'))

/-- The first digit in which two numbers differ decides, where the digits have six bits each. -/
theorem digits_lt {v w : Nat} (h : v < w) :
    v / 262144 < w / 262144 ∨ v / 262144 = w / 262144 ∧
      (v / 4096 % 64 < w / 4096 % 64 ∨ v / 4096 % 64 = w / 4096 % 64 ∧
        (v / 64 % 64 < w / 64 % 64 ∨ v / 64 % 64 = w / 64 % 64 ∧ v % 64 < w % 64)) := by
  have hdigit : ∀ {a b : Nat}, a < b → a / 64 < b / 64 ∨ a / 64 = b / 64 ∧ a % 64 < b % 64 := by
    intro a b hab
    omega
  have hdiv : ∀ a : Nat, a / 4096 = a / 64 / 64 ∧ a / 262144 = a / 64 / 64 / 64 := by
    intro a
    omega
  rw [(hdiv v).1, (hdiv v).2, (hdiv w).1, (hdiv w).2]
  rcases hdigit h with h | ⟨heq, h⟩
  · rcases hdigit h with h | ⟨heq, h⟩
    · rcases hdigit h with h | ⟨heq, h⟩
      · exact .inl h
      · exact .inr ⟨heq, .inl h⟩
    · rw [heq]
      exact .inr ⟨rfl, .inr ⟨rfl, .inl h⟩⟩
  · rw [heq]
    exact .inr ⟨rfl, .inr ⟨rfl, .inr ⟨rfl, h⟩⟩⟩

/-- A later character has later bytes, whatever follows the two. -/
theorem utf8EncodeChar_lt {c d : Char} (h : c < d) (xs ys : Bytes) :
    String.utf8EncodeChar c ++ xs < String.utf8EncodeChar d ++ ys := by
  have hlt : c.val.toNat < d.val.toNat := UInt32.lt_iff_toNat_lt.1 (Char.lt_def.1 h)
  have hd : d.val.toNat < 0x110000 := by
    have hvalid : d.val.toNat < 0xD800 ∨ 0xDFFF < d.val.toNat ∧ d.val.toNat < 0x110000 := d.valid
    omega
  unfold String.utf8EncodeChar
  generalize c.val.toNat = v at hlt
  generalize d.val.toNat = w at hlt hd
  dsimp only
  have hdigits := digits_lt hlt
  -- either the first bytes differ, or both have the same length
  split
  · split
    · exact cons_lt_cons_of_lt hlt (by omega) _ _
    · split
      · exact cons_lt_cons_of_lt (by omega) (by omega) _ _
      · split
        · exact cons_lt_cons_of_lt (by omega) (by omega) _ _
        · exact cons_lt_cons_of_lt (by omega) (by omega) _ _
  · rw [if_neg (show ¬ w ≤ 127 by omega)]
    split
    · split
      · have hnumbers : [v / 64 % 32 + 192, v % 64 + 128] <
            [w / 64 % 32 + 192, w % 64 + 128] := by
          simp only [List.cons_lt_cons_iff, List.not_lt_nil]
          omega
        exact map_ofNat_lt hnumbers rfl (by simp; omega) (by simp; omega) xs ys
      · split
        · exact cons_lt_cons_of_lt (by omega) (by omega) _ _
        · exact cons_lt_cons_of_lt (by omega) (by omega) _ _
    · rw [if_neg (show ¬ w ≤ 2047 by omega)]
      split
      · split
        · have hnumbers : [v / 4096 % 16 + 224, v / 64 % 64 + 128, v % 64 + 128] <
              [w / 4096 % 16 + 224, w / 64 % 64 + 128, w % 64 + 128] := by
            simp only [List.cons_lt_cons_iff, List.not_lt_nil]
            omega
          exact map_ofNat_lt hnumbers rfl (by simp; omega) (by simp; omega) xs ys
        · exact cons_lt_cons_of_lt (by omega) (by omega) _ _
      · have hv : v / 262144 % 8 = v / 262144 := Nat.mod_eq_of_lt (by omega)
        have hw : w / 262144 % 8 = w / 262144 := Nat.mod_eq_of_lt (by omega)
        rw [if_neg (show ¬ w ≤ 65535 by omega), hv, hw]
        have hnumbers : [v / 262144 + 240, v / 4096 % 64 + 128, v / 64 % 64 + 128, v % 64 + 128] <
            [w / 262144 + 240, w / 4096 % 64 + 128, w / 64 % 64 + 128, w % 64 + 128] := by
          simp only [List.cons_lt_cons_iff, List.not_lt_nil]
          omega
        exact map_ofNat_lt hnumbers rfl (by simp; omega) (by simp; omega) xs ys

theorem encodeChars_lt {cs ds : List Char} (h : cs < ds) : encodeChars cs < encodeChars ds := by
  induction cs generalizing ds with
  | nil =>
      cases ds with
      | nil => exact absurd h (List.not_lt_nil _)
      | cons d ds =>
          obtain ⟨b, bs, hd, -⟩ := front?_utf8EncodeChar d
          rw [encodeChars, encodeChars, List.flatMap_cons, hd]
          exact List.nil_lt_cons _ _
  | cons c cs ih =>
      cases ds with
      | nil => exact absurd h (List.not_lt_nil _)
      | cons d ds =>
          rw [encodeChars, encodeChars, List.flatMap_cons, List.flatMap_cons]
          rcases List.cons_lt_cons_iff.1 h with hlt | ⟨rfl, hlt⟩
          · exact utf8EncodeChar_lt hlt _ _
          · exact List.append_left_lt (ih hlt)

/-- **The order of texts is that of their bytes.** -/
theorem encode_lt {s t : String} (h : s < t) : encode s < encode t :=
  encodeChars_lt (String.lt_iff.1 h)

theorem encode_lt_iff {s t : String} : encode s < encode t ↔ s < t := by
  refine ⟨fun h => Classical.byContradiction fun hnot => ?_, encode_lt⟩
  by_cases hlt : t < s
  · exact List.lt_irrefl _ (List.lt_trans h (encode_lt hlt))
  · rw [String.le_antisymm (String.not_lt.1 hlt) (String.not_lt.1 hnot)] at h
    exact List.lt_irrefl _ h

end Utf8

end EventRules

/-
**Written text is read back.**

In a document, text may be written in many ways: any character may be referred to by its number, in
decimal or hexadecimal digits of either case, with zeros in front, and five of them by name.  Those
that mean something to the reader, or that it would change, have to be written so; all others may
stand for themselves.  Whatever the choice, the reader finds the text again.

Names of elements and attributes are written as they are.

Main definitions:

* `Markup.Numeral` — the digits that write a number;
* `Markup.RefersTo` — the references to a character;
* `Markup.Spells` — **the ways to write a text**;
* `Markup.isSimpleName` — names of ASCII letters, digits and underscores.

Main results:

* `Markup.Spells.expand?` — resolving references gives the text;
* `Markup.Spells.scanText`, `Markup.Spells.scanQuoted` — text before a bracket and between quotes is
  read back;
* `Markup.scanName_simple` — so is a name.
-/

import EventRules.Markup.Writer

set_option relaxedAutoImplicit false
set_option autoImplicit false

namespace EventRules.Markup

/-! ### Ways to write a text -/

/-- The digit has this value in a base; letters may be of either case. -/
def DigitValue (base : Nat) (digit : Char) (value : Nat) : Prop :=
  value < base ∧
    ("0123456789abcdef".toList[value]? = some digit ∨
      "0123456789ABCDEF".toList[value]? = some digit)

/-- **The digits write a number** in a base. -/
inductive Numeral (base : Nat) : List Char → Nat → Prop
  | single {digit : Char} {value : Nat} (h : DigitValue base digit value) :
      Numeral base [digit] value
  | more {digits : List Char} {number : Nat} {digit : Char} {value : Nat}
      (h : Numeral base digits number) (hd : DigitValue base digit value) :
      Numeral base (digits ++ [digit]) (number * base + value)

/-- **The references to a character.** -/
inductive RefersTo : List Char → Char → Prop
  | named {name : String} {c : Char} (h : (name, c) ∈ predefined) :
      RefersTo ('&' :: name.toList ++ [';']) c
  | decimal {digits : List Char} {c : Char} (h : Numeral 10 digits c.toNat) :
      RefersTo ('&' :: '#' :: digits ++ [';']) c
  | hexadecimal {digits : List Char} {c : Char} (h : Numeral 16 digits c.toNat) :
      RefersTo ('&' :: '#' :: 'x' :: digits ++ [';']) c

/-- **The ways to write a text.**  A character that needs no reference may stand for itself. -/
inductive Spells : List Char → List Char → Prop
  | nil : Spells [] []
  | plain {c : Char} {text written : List Char} (hc : needsReference c = false)
      (h : Spells text written) : Spells (c :: text) (c :: written)
  | reference {c : Char} {r text written : List Char} (hr : RefersTo r c)
      (h : Spells text written) : Spells (c :: text) (r ++ written)

/-! ### Digits -/

namespace DigitValue

variable {base value : Nat} {digit : Char}

/-- What holds of all digits of both lists holds of every digit. -/
theorem forall_of_all {p : Char → Nat → Bool}
    (hl : ("0123456789abcdef".toList.zipIdx.all fun d => p d.1 d.2) = true)
    (hu : ("0123456789ABCDEF".toList.zipIdx.all fun d => p d.1 d.2) = true)
    (h : DigitValue base digit value) : p digit value = true := by
  rw [List.all_eq_true] at hl hu
  obtain ⟨-, hd | hd⟩ := h
  · exact hl (digit, value) (List.mem_zipIdx_iff_getElem?.2 hd)
  · exact hu (digit, value) (List.mem_zipIdx_iff_getElem?.2 hd)

/-- The reader knows the value of a digit. -/
theorem digitValue? (h : DigitValue base digit value) :
    digitValue? base (.char digit) = some value := by
  have hvalue : (if '0' ≤ digit ∧ digit ≤ '9' then digit.toNat - '0'.toNat
      else if 'a' ≤ digit ∧ digit ≤ 'f' then digit.toNat - 'a'.toNat + 10
      else if 'A' ≤ digit ∧ digit ≤ 'F' then digit.toNat - 'A'.toNat + 10
      else 16) = value :=
    eq_of_beq (forall_of_all (p := fun digit value =>
      (if '0' ≤ digit ∧ digit ≤ '9' then digit.toNat - '0'.toNat
      else if 'a' ≤ digit ∧ digit ≤ 'f' then digit.toNat - 'a'.toNat + 10
      else if 'A' ≤ digit ∧ digit ≤ 'F' then digit.toNat - 'A'.toNat + 10
      else 16) == value) (by decide) (by decide) h)
  unfold Markup.digitValue?
  dsimp only
  rw [hvalue, if_pos h.1]

theorem isAlphanum (h : DigitValue base digit value) : digit.isAlphanum = true :=
  forall_of_all (p := fun digit _ => digit.isAlphanum) (by decide) (by decide) h

end DigitValue

namespace Numeral

variable {base number : Nat} {digits : List Char}

theorem ne_nil (h : Numeral base digits number) : digits ≠ [] := by
  cases h with
  | single h => exact List.cons_ne_nil _ _
  | more h hd => simp

theorem forall_digit (h : Numeral base digits number) :
    ∀ d ∈ digits, ∃ value, DigitValue base d value := by
  induction h with
  | single h =>
      intro d hd
      obtain rfl := List.mem_singleton.1 hd
      exact ⟨_, h⟩
  | more h hd ih =>
      intro d hm
      rcases List.mem_append.1 hm with hm | hm
      · exact ih d hm
      · obtain rfl := List.mem_singleton.1 hm
        exact ⟨_, hd⟩

/-- The values of the digits give the number. -/
theorem foldl_values (h : Numeral base digits number) :
    ((digits.map Glyph.char).filterMap (digitValue? base)).foldl (fun n d => n * base + d) 0 =
      number := by
  induction h with
  | single h => simp [h.digitValue?]
  | more h hd ih =>
      rw [List.map_append, List.filterMap_append, List.foldl_append, ih]
      simp [hd.digitValue?]

end Numeral

/-! ### References -/

theorem takeWhile_append_stop {α : Type} {p : α → Bool} {front : List α} {a : α}
    (hf : ∀ x ∈ front, p x = true) (ha : p a = false) (rest : List α) :
    (front ++ a :: rest).takeWhile p = front ∧ (front ++ a :: rest).dropWhile p = a :: rest := by
  rw [List.takeWhile_append_of_pos hf, List.dropWhile_append_of_pos hf]
  simp [ha]

theorem goesOn_cons (closed : Bool) (g : Glyph) (s : List Glyph) :
    goesOn closed (g :: s) = true := by
  simp [goesOn]

theorem toNat_valid (c : Char) : c.toNat < 0xD800 ∨ 0xDFFF < c.toNat ∧ c.toNat < 0x110000 :=
  c.valid

/-- The character with the number of a character is that one. -/
theorem numberedChar_toNat (c : Char) : numberedChar c.toNat = c := by
  have hc := toNat_valid c
  rw [numberedChar, if_neg (by omega), Char.ofNat_toNat]

/-- A semicolon ends every number. -/
theorem digitValue?_semicolon {base : Nat} (hb : base ≤ 16) :
    digitValue? base (.char ';') = none := by
  have hvalue : (if '0' ≤ ';' ∧ ';' ≤ '9' then ';'.toNat - '0'.toNat
      else if 'a' ≤ ';' ∧ ';' ≤ 'f' then ';'.toNat - 'a'.toNat + 10
      else if 'A' ≤ ';' ∧ ';' ≤ 'F' then ';'.toNat - 'A'.toNat + 10
      else 16) = 16 := by decide
  unfold digitValue?
  dsimp only
  rw [hvalue, if_neg (by omega)]

/-- A reference by number. -/
theorem Numeral.numberReference? {base : Nat} {digits : List Char} {c : Char} (hb : base ≤ 16)
    (h : Numeral base digits c.toNat) (closed : Bool) (lead rest : List Glyph) :
    numberReference? closed base lead (digits.map .char ++ .char ';' :: rest) =
      some ⟨[.char c], lead.length + digits.length + 1⟩ := by
  have hdigits : ∀ g ∈ digits.map Glyph.char, (digitValue? base g).isSome = true := by
    intro g hg
    obtain ⟨d, hd, rfl⟩ := List.mem_map.1 hg
    obtain ⟨value, hv⟩ := h.forall_digit d hd
    rw [hv.digitValue?]
    rfl
  have hsemicolon : (digitValue? base (.char ';')).isSome = false := by
    rw [digitValue?_semicolon hb]
    rfl
  have hempty : (digits.map Glyph.char).isEmpty = false := by simpa using h.ne_nil
  have hlast : ¬ 0x10FFFF < c.toNat := by
    have hc := toNat_valid c
    omega
  unfold Markup.numberReference?
  rw [(takeWhile_append_stop hdigits hsemicolon rest).1]
  dsimp only
  rw [List.drop_left, goesOn_cons, h.foldl_values, hempty, numberedChar_toNat]
  simp [hlast]

/-- The predefined names are names of ASCII letters, and the reader knows them. -/
theorem predefined_spec : ∀ p ∈ predefined,
    p.1.toList.all Char.isAlphanum = true ∧ p.1.toList.head? ≠ some '#' ∧
      predefined.lookup p.1 = some p.2 := by
  decide

theorem isNameGlyph_alphanum {c : Char} (h : c.isAlphanum = true) :
    isNameGlyph (.char c) = true := by
  simp [isNameGlyph, h]

/-- A reference by name. -/
theorem nameReference?_predefined {name : String} {c : Char} (h : (name, c) ∈ predefined)
    (closed : Bool) (rest : List Glyph) :
    nameReference? closed (name.toList.map .char ++ .char ';' :: rest) =
      some ⟨[.char c], name.toList.length + 1⟩ := by
  obtain ⟨hchars, -, hlookup⟩ := predefined_spec _ h
  have hname : ∀ g ∈ name.toList.map Glyph.char, isNameGlyph g = true := by
    intro g hg
    obtain ⟨d, hd, rfl⟩ := List.mem_map.1 hg
    exact isNameGlyph_alphanum (List.all_eq_true.1 hchars d hd)
  have hsemicolon : isNameGlyph (.char ';') = false := by decide
  have htext : Glyph.text (name.toList.map .char) = name := by
    simp [Glyph.text, Function.comp_def, Glyph.shown]
  unfold nameReference?
  rw [(takeWhile_append_stop hname hsemicolon rest).1]
  dsimp only
  rw [List.drop_left, goesOn_cons, htext, hlookup]
  simp

theorem scanReference?_hexadecimal (closed : Bool) (s : List Glyph) :
    scanReference? closed (.char '#' :: .char 'x' :: s) =
      numberReference? closed 16 [.char '#', .char 'x'] s := rfl

theorem scanReference?_decimal {s : List Glyph} (h : s.head? ≠ some (.char 'x')) (closed : Bool) :
    scanReference? closed (.char '#' :: s) = numberReference? closed 10 [.char '#'] s := by
  unfold scanReference?
  split
  · rename_i heq
    cases heq
    exact absurd rfl h
  · rename_i heq
    cases heq
    rfl
  · rename_i hne
    exact absurd rfl (hne s)

theorem scanReference?_name {s : List Glyph} (h : s.head? ≠ some (.char '#')) (closed : Bool) :
    scanReference? closed s = nameReference? closed s := by
  unfold scanReference?
  split
  · exact absurd rfl h
  · exact absurd rfl h
  · rfl

/-- **The reader understands every reference.** -/
theorem RefersTo.scanReference? {r : List Char} {c : Char} (h : RefersTo r c) (closed : Bool)
    (rest : List Glyph) :
    ∃ body, r = '&' :: body ∧
      scanReference? closed (body.map .char ++ rest) = some ⟨[.char c], body.length⟩ := by
  cases h with
  | @named name _ h =>
      refine ⟨name.toList ++ [';'], rfl, ?_⟩
      have hhead : (name.toList.map Glyph.char ++ .char ';' :: rest).head? ≠ some (.char '#') := by
        obtain ⟨-, hne, -⟩ := predefined_spec _ h
        cases hn : name.toList with
        | nil => simp
        | cons d ds =>
            rw [hn] at hne
            simpa using hne
      have href := nameReference?_predefined h closed rest
      rw [← scanReference?_name hhead] at href
      simpa using href
  | @decimal digits _ h =>
      refine ⟨'#' :: digits ++ [';'], rfl, ?_⟩
      have hhead : (digits.map Glyph.char ++ .char ';' :: rest).head? ≠ some (.char 'x') := by
        cases hd : digits with
        | nil => simp
        | cons d ds =>
            obtain ⟨value, hv⟩ := h.forall_digit d (hd ▸ List.mem_cons_self)
            rintro ⟨rfl⟩
            -- no decimal digit is a letter
            have hx := hv.digitValue?
            simp [digitValue?] at hx
      have href := h.numberReference? (by decide) closed [.char '#'] rest
      rw [← scanReference?_decimal hhead] at href
      simpa [Nat.add_comm] using href
  | @hexadecimal digits _ h =>
      refine ⟨'#' :: 'x' :: digits ++ [';'], rfl, ?_⟩
      have href := h.numberReference? (by decide) closed [.char '#', .char 'x'] rest
      have hlength : 2 + digits.length + 1 = digits.length + 1 + 1 + 1 := by omega
      rw [← scanReference?_hexadecimal] at href
      simpa [hlength] using href

/-! ### Text -/

theorem expandFrom?_eq_drop (closed : Bool) (skip : Nat) (s : List Glyph) :
    expandFrom? closed skip s = expandFrom? closed 0 (s.drop skip) := by
  induction skip generalizing s with
  | zero => rfl
  | succ skip ih =>
      cases s with
      | nil => rfl
      | cons g s => exact ih s

/-- A reference gives its character. -/
theorem RefersTo.expandFrom? {r : List Char} {c : Char} (h : RefersTo r c) (closed : Bool)
    (rest : List Glyph) :
    expandFrom? closed 0 (r.map .char ++ rest) =
      (expandFrom? closed 0 rest).map (.char c :: ·) := by
  obtain ⟨body, rfl, hscan⟩ := h.scanReference? closed rest
  rw [List.map_cons, List.cons_append, Markup.expandFrom?]
  simp only [Glyph.is_char, beq_self_eq_true, if_true, hscan]
  rw [expandFrom?_eq_drop, List.drop_left' (List.length_map _)]
  rfl

/-- The characters that need a reference. -/
theorem needsReference_iff {c : Char} :
    needsReference c = true ↔
      c = '&' ∨ c = '<' ∨ c = '>' ∨ c = '"' ∨ c = '\t' ∨ c = '\r' ∨ c = '\n' := by
  simp [needsReference]

/-- References are made of letters, digits and three marks. -/
theorem RefersTo.forall_mem {r : List Char} {c : Char} (h : RefersTo r c) :
    ∀ d ∈ r, d.isAlphanum = true ∨ d = '&' ∨ d = '#' ∨ d = ';' := by
  cases h with
  | named h =>
      obtain ⟨hchars, -⟩ := predefined_spec _ h
      intro d hd
      simp only [List.cons_append, List.mem_cons, List.mem_append, List.not_mem_nil, or_false] at hd
      rcases hd with rfl | hd | rfl
      · simp
      · exact .inl (List.all_eq_true.1 hchars d hd)
      · simp
  | decimal h =>
      intro d hd
      simp only [List.cons_append, List.mem_cons, List.mem_append, List.not_mem_nil, or_false] at hd
      rcases hd with rfl | rfl | hd | rfl
      · simp
      · simp
      · obtain ⟨value, hv⟩ := h.forall_digit d hd
        exact .inl hv.isAlphanum
      · simp
  | hexadecimal h =>
      intro d hd
      simp only [List.cons_append, List.mem_cons, List.mem_append, List.not_mem_nil, or_false] at hd
      rcases hd with rfl | rfl | rfl | hd | rfl
      · simp
      · simp
      · exact .inl (by decide)
      · obtain ⟨value, hv⟩ := h.forall_digit d hd
        exact .inl hv.isAlphanum
      · simp

namespace Spells

variable {text written : List Char}

/-- **Resolving references gives the text.** -/
theorem expand? (h : Spells text written) (closed : Bool) :
    expand? closed (written.map .char) = some (text.map .char) := by
  unfold Markup.expand?
  induction h with
  | nil => rfl
  | @plain c text written hc h ih =>
      have hne := mt needsReference_iff.2 (Bool.eq_false_iff.1 hc)
      simp only [not_or] at hne
      rw [List.map_cons, expandFrom?]
      simp [hne, ih]
  | reference hr h ih =>
      rw [List.map_append, hr.expandFrom? closed, ih]
      rfl

/-- Written text holds no bracket and no quote. -/
theorem not_special (h : Spells text written) :
    ∀ d ∈ written, d ≠ '<' ∧ d ≠ '>' ∧ d ≠ '"' := by
  induction h with
  | nil => simp
  | @plain c text written hc h ih =>
      intro d hd
      rcases List.mem_cons.1 hd with rfl | hd
      · have hne := mt needsReference_iff.2 (Bool.eq_false_iff.1 hc)
        simp only [not_or] at hne
        exact ⟨hne.2.1, hne.2.2.1, hne.2.2.2.1⟩
      · exact ih d hd
  | reference hr h ih =>
      intro d hd
      rcases List.mem_append.1 hd with hd | hd
      · rcases hr.forall_mem d hd with ha | rfl | rfl | rfl
        · refine ⟨?_, ?_, ?_⟩ <;> rintro rfl <;> revert ha <;> decide
        · decide
        · decide
        · decide
      · exact ih d hd

end Spells

theorem legalChars_map {cs : List Char} (h : ∀ c ∈ cs, isLegal c = true) :
    legalChars (cs.map .char) = .ok cs := by
  induction cs with
  | nil => rfl
  | cons c cs ih =>
      rw [List.map_cons, legalChars, if_pos (h c List.mem_cons_self),
        ih fun d hd => h d (List.mem_cons_of_mem _ hd)]

/-- **A stretch of written text is read back.** -/
theorem Spells.scanStretch {text written : List Char} (h : Spells text written)
    (hl : ∀ c ∈ text, isLegal c = true) (rest : List Glyph) :
    scanStretch (written.map .char) rest = .ok (String.ofList text, rest) := by
  unfold Markup.scanStretch
  rw [h.expand?]
  dsimp only
  rw [legalChars_map hl]

/-- What is stripped was there. -/
theorem eq_append_of_strip? {cs : List Char} {gs rest : List Glyph}
    (h : Glyph.strip? cs gs = some rest) : gs = cs.map .char ++ rest := by
  induction cs generalizing gs with
  | nil => simpa [Glyph.strip?] using h
  | cons c cs ih =>
      cases gs with
      | nil => cases h
      | cons g gs =>
          rw [Glyph.strip?] at h
          split at h
          · rename_i hg
            cases g with
            | stray b => cases hg
            | char d =>
                obtain rfl : d = c := by simpa using hg
                rw [ih h]
                rfl
          · cases h

/-- Without a closing bracket literal text does not end. -/
theorem afterLiteralEnd?_of_not_mem {s : List Glyph} (h : .char '>' ∉ s) :
    afterLiteralEnd? s = none := by
  induction s with
  | nil => rfl
  | cons g s ih =>
      rw [afterLiteralEnd?]
      split
      · rename_i rest hs
        have heq := eq_append_of_strip? hs
        exact absurd (by rw [heq]; simp) h
      · exact ih fun hm => h (List.mem_cons_of_mem _ hm)

/-- **Text before a bracket is read back.** -/
theorem Spells.scanText {text written : List Char} (h : Spells text written)
    (hl : ∀ c ∈ text, isLegal c = true) (rest : List Glyph) :
    scanText (written.map .char ++ .char '<' :: rest) =
      .ok (String.ofList text, .char '<' :: rest) := by
  have hwritten : ∀ g ∈ written.map Glyph.char, (!Glyph.is '<' g) = true := by
    intro g hg
    obtain ⟨d, hd, rfl⟩ := List.mem_map.1 hg
    simpa using (h.not_special d hd).1
  have hbracket : (!Glyph.is '<' (.char '<')) = false := by decide
  have hend : Glyph.char '>' ∉ written.map .char := by
    intro hm
    obtain ⟨d, hd, hd'⟩ := List.mem_map.1 hm
    exact (h.not_special d hd).2.1 (Glyph.char.inj hd')
  obtain ⟨htake, hdrop⟩ := takeWhile_append_stop hwritten hbracket rest
  unfold Markup.scanText
  dsimp only
  rw [htake, hdrop, afterLiteralEnd?_of_not_mem hend]
  exact h.scanStretch hl _

/-- **Text between quotes is read back.** -/
theorem Spells.scanQuoted {text written : List Char} (h : Spells text written)
    (hl : ∀ c ∈ text, isLegal c = true) (rest : List Glyph) :
    scanQuoted '"' (written.map .char ++ .char '"' :: rest) = .ok (String.ofList text, rest) := by
  have hwritten : ∀ g ∈ written.map Glyph.char, (!Glyph.is '<' g && !Glyph.is '"' g) = true := by
    intro g hg
    obtain ⟨d, hd, rfl⟩ := List.mem_map.1 hg
    simpa using ⟨(h.not_special d hd).1, (h.not_special d hd).2.2⟩
  have hquote : (!Glyph.is '<' (.char '"') && !Glyph.is '"' (.char '"')) = false := by decide
  obtain ⟨htake, hdrop⟩ := takeWhile_append_stop hwritten hquote rest
  unfold Markup.scanQuoted
  dsimp only
  rw [htake, hdrop]
  simp [h.scanStretch hl]

/-! ### Names -/

/-- **The names of ASCII letters, digits and underscores** that do not start with a digit. -/
def isSimpleName (name : String) : Bool :=
  match name.toList with
  | [] => false
  | c :: cs => (c.isAlpha || c == '_') && cs.all fun d => d.isAlphanum || d == '_'

/-- ASCII letters and digits are ASCII. -/
theorem toNat_lt_of_isAlphanum {c : Char} (h : c.isAlphanum = true) : c.toNat < 0x80 := by
  change (decide (65 ≤ c.val ∧ c.val ≤ 90) || decide (97 ≤ c.val) && decide (c.val ≤ 122) ||
    decide (48 ≤ c.val) && decide (c.val ≤ 57)) = true at h
  simp only [Bool.or_eq_true, Bool.and_eq_true, decide_eq_true_eq, UInt32.le_iff_toNat_le] at h
  have h' : c.val.toNat = c.toNat := rfl
  simp at h
  omega

/-- What a simple name is made of. -/
structure SimpleName (c : Char) (cs : List Char) : Prop where
  /-- It starts with a letter or an underscore. -/
  first : c.isAlpha = true ∨ c = '_'
  /-- It goes on with letters, digits and underscores. -/
  rest : ∀ d ∈ cs, d.isAlphanum = true ∨ d = '_'

theorem simpleName_of_isSimpleName {name : String} (h : isSimpleName name = true) :
    ∃ c cs, name.toList = c :: cs ∧ SimpleName c cs := by
  unfold isSimpleName at h
  split at h
  · cases h
  · rename_i c cs hn
    simp only [Bool.and_eq_true, Bool.or_eq_true, beq_iff_eq, List.all_eq_true] at h
    exact ⟨c, cs, hn, h.1, h.2⟩

namespace SimpleName

variable {c : Char} {cs : List Char}

/-- All characters are letters, digits and underscores. -/
theorem forall_mem (h : SimpleName c cs) : ∀ d ∈ c :: cs, d.isAlphanum = true ∨ d = '_' := by
  intro d hd
  rcases List.mem_cons.1 hd with rfl | hd
  · exact h.first.imp_left fun ha => by simp [Char.isAlphanum, ha]
  · exact h.rest d hd

theorem isNameGlyph (h : SimpleName c cs) :
    ∀ g ∈ (c :: cs).map Glyph.char, isNameGlyph g = true := by
  intro g hg
  obtain ⟨d, hd, rfl⟩ := List.mem_map.1 hg
  rcases h.forall_mem d hd with ha | rfl
  · exact isNameGlyph_alphanum ha
  · decide

/-- The first character is no blank and no mark. -/
theorem first_not_mark (h : SimpleName c cs) :
    isBlankGlyph (.char c) = false ∧ c ≠ '>' ∧ c ≠ '/' ∧ c ≠ '?' ∧ c ≠ '!' := by
  have hne {d : Char} (hd : (d.isAlpha || d == '_') = false) : c ≠ d := by
    rintro rfl
    rcases h.first with ha | rfl
    · simp [ha] at hd
    · simp at hd
  refine ⟨?_, hne (by decide), hne (by decide), hne (by decide), hne (by decide)⟩
  simp only [isBlankGlyph, Glyph.holds, Bool.or_eq_false_iff, beq_eq_false_iff_ne]
  exact ⟨⟨⟨hne (by decide), hne (by decide)⟩, hne (by decide)⟩, hne (by decide)⟩

theorem isName (h : SimpleName c cs) : isName (c :: cs) = true := by
  have hfirst : isNameStart c = true := by
    rcases h.first with ha | rfl
    · have hlt : c.toNat < 0x80 := toNat_lt_of_isAlphanum (by simp [Char.isAlphanum, ha])
      simp [isNameStart, hlt, ha]
    · decide
  have hrest : ∀ d ∈ cs, isNameChar d = true := by
    intro d hd
    rcases h.rest d hd with ha | rfl
    · simp [isNameChar, toNat_lt_of_isAlphanum ha, ha]
    · decide
  rw [Markup.isName, hfirst, List.all_eq_true.2 hrest]
  rfl

theorem not_mem_colon (h : SimpleName c cs) : ':' ∉ c :: cs := by
  intro hm
  rcases h.forall_mem ':' hm with ha | ha
  · revert ha
    decide
  · revert ha
    decide

/-- A name without a colon is not divided. -/
theorem ofChars? (h : SimpleName c cs) :
    Name.ofChars? (c :: cs) = some ⟨"", String.ofList (c :: cs)⟩ := by
  have hcolon : ∀ d ∈ c :: cs, (d != ':') = true := by
    intro d hd
    simpa using fun he : d = ':' => h.not_mem_colon (he ▸ hd)
  have hcount : (c :: cs).count ':' = 0 := List.count_eq_zero.2 h.not_mem_colon
  have hdrop : (c :: cs).dropWhile (· != ':') = [] := by
    rw [← List.append_nil (c :: cs), List.dropWhile_append_of_pos hcolon]
    rfl
  unfold Name.ofChars?
  rw [hcount, hdrop]
  simp

end SimpleName

/-- **A simple name is read back**, if what follows is no part of it. -/
theorem scanName_simple {name : String} (h : isSimpleName name = true) (place : NamePlace)
    {g : Glyph} (hg : isNameGlyph g = false) (rest : List Glyph) :
    scanName place (name.toList.map .char ++ g :: rest) = .ok (⟨"", name⟩, g :: rest) := by
  obtain ⟨c, cs, hn, hs⟩ := simpleName_of_isSimpleName h
  obtain ⟨htake, hdrop⟩ := takeWhile_append_stop hs.isNameGlyph hg rest
  have hraw : scanRawName ((c :: cs).map .char ++ g :: rest) = .ok (some (c :: cs), g :: rest) := by
    unfold scanRawName
    rw [List.map_cons, List.cons_append] at htake hdrop ⊢
    dsimp only
    rw [htake, hdrop]
    rw [← List.map_cons (f := Glyph.char), Glyph.chars?_map_char]
    simp [hs.isName]
  unfold scanName
  rw [hn, hraw]
  dsimp only
  rw [hs.ofChars?]
  simp [← hn]

end EventRules.Markup

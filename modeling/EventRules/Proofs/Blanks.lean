/-
**Blank documents lose nothing.**

Whether a document is blank is judged byte by byte, before anything is known of its encoding.  Its
bytes are then read as UTF-8, or in pairs as UTF-16, so that two of them may form a character that
neither of them is.  Still no element can come of them.  An element starts with a bracket, and in
every encoding a bracket is made of a bracket byte: all bytes of longer UTF-8 sequences are beyond
ASCII, and the code unit of a bracket has its byte in one half.  So a document without a bracket
byte has no element, and a blank document is one of these.

A pass skips blank documents before it reads them.  They only shift the places of the documents
behind them, and a place shows in nothing but the wording of a failure.

Main definitions:

* `AddsBlanks` — event documents with blank ones put in between.

Main results:

* `Utf8.bracket_mem_of_mem_decode`, `Utf16.bracket_mem_of_mem_decode`,
  `Document.bracket_mem_of_mem_decode` — **a bracket is made of a bracket byte**;
* `Markup.read_error_of_no_bracket` — without a bracket there is no element;
* `Document.parse_error_of_isBlank` — a blank document has no element;
* `AddsBlanks.readEvents_eq`, `AddsBlanks.decompile_eq` — what is read from documents with blank
  ones in between, and a pass over them;
* `blank_documents_lose_nothing` — **they do not change the result of a pass**.
-/

import Mathlib.Data.List.TakeWhile
import EventRules.Proofs.Decoding
import EventRules.Proofs.Reading

set_option relaxedAutoImplicit false
set_option autoImplicit false

namespace EventRules

/-! ### Brackets -/

/-- A number that belongs to no character gives NUL. -/
theorem toNat_ofNat_cases (n : Nat) : (Char.ofNat n).toNat = n ∨ (Char.ofNat n).toNat = 0 := by
  by_cases hvalid : n.isValidChar
  · rw [Char.ofNat, dif_pos hvalid]
    exact .inl rfl
  · rw [Char.ofNat, dif_neg hvalid]
    exact .inr rfl

/-- Only one number gives a bracket. -/
theorem eq_of_ofNat_eq_bracket {n : Nat} (h : Char.ofNat n = '<') : n = 0x3C := by
  have hn : (Char.ofNat n).toNat = 0x3C := by rw [h]; rfl
  rcases toNat_ofNat_cases n with hc | hc <;> omega

namespace Utf8

variable {b low high : UInt8} {n : Nat} {rest bs : Bytes} {c : Char}

/-- The first bytes of sequences of several bytes, with the bounds of what may follow. -/
theorem bounds_of_lead? (h : lead? b = some (low, high, n)) :
    (n = 2 → 0xC2 ≤ b.toNat) ∧
      (n = 3 → 0xE0 ≤ b.toNat ∧ (b.toNat = 0xE0 → low = 0xA0)) ∧
      (n = 4 → 0xF0 ≤ b.toNat ∧ (b.toNat = 0xF0 → low = 0x90)) := by
  have hb : b = UInt8.ofNat b.toNat := (UInt8.ofNat_toNat).symm
  rw [hb, lead?_ofNat b.toNat_lt] at h
  grind

/-- **A character of several bytes is beyond ASCII**, and far beyond if it starts as a byte order
mark does. -/
theorem number_of_front? {more : Nat} (hb : ¬ b < 0x80) (h : front? b rest = some (c, more)) :
    ∃ number, c = Char.ofNat number ∧ 0x80 ≤ number ∧ (b = 0xEF → 0xF000 ≤ number) := by
  unfold front? at h
  rw [if_neg hb] at h
  split at h
  · rename_i low high b₁ _ hl
    split at h
    · obtain ⟨rfl, -⟩ := Prod.mk.inj (Option.some.inj h)
      have hfirst := (bounds_of_lead? hl).1 rfl
      refine ⟨_, rfl, by omega, ?_⟩
      rintro rfl
      cases hl
    · cases h
  · rename_i low high b₁ b₂ _ hl
    split at h
    · rename_i hfits
      obtain ⟨rfl, -⟩ := Prod.mk.inj (Option.some.inj h)
      obtain ⟨hfirst, hlow⟩ := (bounds_of_lead? hl).2.1 rfl
      -- a sequence that starts with the smallest byte has a large second one
      have hsecond : b.toNat = 0xE0 → 0xA0 ≤ b₁.toNat := by
        intro he
        simp only [hlow he, Bool.and_eq_true, decide_eq_true_eq] at hfits
        exact UInt8.le_iff_toNat_le.1 hfits.1.1
      unfold tailBits
      refine ⟨_, rfl, by omega, ?_⟩
      rintro rfl
      have hmark : (0xEF : UInt8).toNat = 0xEF := rfl
      omega
    · cases h
  · rename_i low high b₁ b₂ b₃ _ hl
    split at h
    · rename_i hfits
      obtain ⟨rfl, -⟩ := Prod.mk.inj (Option.some.inj h)
      obtain ⟨hfirst, hlow⟩ := (bounds_of_lead? hl).2.2 rfl
      have hsecond : b.toNat = 0xF0 → 0x90 ≤ b₁.toNat := by
        intro he
        simp only [hlow he, Bool.and_eq_true, decide_eq_true_eq] at hfits
        exact UInt8.le_iff_toNat_le.1 hfits.1.1.1
      unfold tailBits
      refine ⟨_, rfl, by omega, ?_⟩
      rintro rfl
      cases hl
    · cases h
  · cases h

/-- A character of one byte is that byte. -/
theorem char_of_front? {more : Nat} (hb : b < 0x80) (h : front? b rest = some (c, more)) :
    c = Char.ofNat b.toNat ∧ more = 0 := by
  unfold front? at h
  rw [if_pos hb] at h
  cases h
  exact ⟨rfl, rfl⟩

theorem eq_bracket_of_front? {more : Nat} (h : front? b rest = some ('<', more)) : b = 0x3C := by
  by_cases hb : b < 0x80
  · have hc := eq_of_ofNat_eq_bracket (char_of_front? hb h).1.symm
    exact UInt8.toNat_inj.1 hc
  · obtain ⟨number, hc, hnumber, -⟩ := number_of_front? hb h
    have := eq_of_ofNat_eq_bracket hc.symm
    omega

theorem bracket_mem_of_mem_decodeFrom {skip : Nat} (h : Glyph.char '<' ∈ decodeFrom skip bs) :
    0x3C ∈ bs := by
  induction bs generalizing skip with
  | nil => simp at h
  | cons b bs ih =>
      cases skip with
      | succ skip => exact List.mem_cons_of_mem _ (ih h)
      | zero =>
          rw [decodeFrom] at h
          split at h
          · rename_i c more hfront
            rcases List.mem_cons.1 h with hc | h
            · cases hc
              rw [eq_bracket_of_front? hfront]
              exact List.mem_cons_self
            · exact List.mem_cons_of_mem _ (ih h)
          · rcases List.mem_cons.1 h with hc | h
            · cases hc
            · exact List.mem_cons_of_mem _ (ih h)

/-- **A bracket in UTF-8 is a bracket byte.** -/
theorem bracket_mem_of_mem_decode (h : Glyph.char '<' ∈ decode bs) : 0x3C ∈ bs :=
  bracket_mem_of_mem_decodeFrom h

end Utf8

namespace Utf16

variable {order : ByteOrder} {bs : Bytes} {us : List (Option Nat)}

theorem pair_ne_bracket (high low : Nat) : pair high low ≠ '<' := by
  intro h
  have := eq_of_ofNat_eq_bracket h
  omega

/-- **A bracket in UTF-16 is one unit**: a surrogate pair stands for no character of the basic
plane. -/
theorem bracket_mem_of_mem_ofUnits (h : '<' ∈ ofUnits us) : some 0x3C ∈ us := by
  have hreplacement : '<' ≠ replacement := by decide
  have hunit (u : Nat) (hu : '<' = Char.ofNat u) : u = 0x3C := eq_of_ofNat_eq_bracket hu.symm
  fun_induction ofUnits us with
  | case1 => cases h
  | case2 rest ih =>
      rcases List.mem_cons.1 h with hc | h
      · exact absurd hc hreplacement
      · exact List.mem_cons_of_mem _ (ih h)
  | case3 u v rest hpair ih =>
      rcases List.mem_cons.1 h with hc | h
      · split at hc
        · exact absurd hc.symm (pair_ne_bracket u v)
        · exact absurd hc hreplacement
      · exact List.mem_cons_of_mem _ (List.mem_cons_of_mem _ (ih h))
  | case4 u v rest hpair hsurrogate ih =>
      rcases List.mem_cons.1 h with hc | h
      · exact absurd hc hreplacement
      · exact List.mem_cons_of_mem _ (ih h)
  | case5 u v rest hpair hsurrogate ih =>
      rcases List.mem_cons.1 h with hc | h
      · rw [hunit u hc]
        exact List.mem_cons_self
      · exact List.mem_cons_of_mem _ (ih h)
  | case6 u rest hlast ih =>
      rcases List.mem_cons.1 h with hc | h
      · split at hc
        · exact absurd hc hreplacement
        · rw [hunit u hc]
          exact List.mem_cons_self
      · exact List.mem_cons_of_mem _ (ih h)

/-- One half of that unit is a bracket byte. -/
theorem bracket_mem_of_mem_units (h : some 0x3C ∈ units order bs) : 0x3C ∈ bs := by
  fun_induction units order bs with
  | case1 first second rest ih =>
      rcases List.mem_cons.1 h with hu | h
      · have hu : 0x3C = unit order first second := Option.some.inj hu
        cases order with
        | little =>
            have hlt := first.toNat_lt
            have hfirst : first.toNat = 0x3C := by
              simp only [unit] at hu
              omega
            rw [show first = 0x3C from UInt8.toNat_inj.1 hfirst]
            exact List.mem_cons_self
        | big =>
            have hlt := second.toNat_lt
            have hsecond : second.toNat = 0x3C := by
              simp only [unit] at hu
              omega
            rw [show second = 0x3C from UInt8.toNat_inj.1 hsecond]
            exact List.mem_cons_of_mem _ List.mem_cons_self
      · exact List.mem_cons_of_mem _ (List.mem_cons_of_mem _ (ih h))
  | case2 b => simp at h
  | case3 => cases h

/-- **A bracket in UTF-16 is a bracket byte beside a zero.** -/
theorem bracket_mem_of_mem_decode (h : '<' ∈ decode order bs) : 0x3C ∈ bs :=
  bracket_mem_of_mem_units (bracket_mem_of_mem_ofUnits h)

end Utf16

/-! ### Documents without a bracket -/

namespace Markup

theorem rest_of_scanText {s rest : List Glyph} {text : String}
    (h : scanText s = .ok (text, rest)) : rest = s.dropWhile (!Glyph.is '<' ·) := by
  unfold scanText at h
  dsimp only at h
  split at h
  · cases h
  · unfold scanStretch at h
    split at h
    · cases h
    · split at h
      · cases h
        rfl
      · cases h

/-- **Without a bracket there is no element**: reading comes to the end of the document, if no flaw
of the text stops it, and has found no root. -/
theorem read_error_of_no_bracket (index : CharsetIndex) {s : List Glyph} (h : .char '<' ∉ s) :
    ∃ fault, read index s = .error fault := by
  have hdrop : s.dropWhile (!Glyph.is '<' ·) = [] := by
    refine List.dropWhile_eq_nil_iff.2 fun g hg => ?_
    cases g with
    | stray b => rfl
    | char c =>
        have hc : c ≠ '<' := by
          rintro rfl
          exact h hg
        simpa using hc
  unfold read readFrom
  cases ht : scanText s with
  | error e => exact ⟨_, rfl⟩
  | ok scanned =>
      obtain ⟨text, rest⟩ := scanned
      obtain rfl : rest = [] := (rest_of_scanText ht).trans hdrop
      exact ⟨_, rfl⟩

end Markup

namespace Document

variable {doc : Bytes}

/-- **A bracket in a document is a bracket byte**, whatever its encoding is taken for. -/
theorem bracket_mem_of_mem_decode (h : .char '<' ∈ decode doc) : 0x3C ∈ doc := by
  have hunits {order : Utf16.ByteOrder} {bs : Bytes}
      (h : Glyph.char '<' ∈ (Utf16.decode order bs).map .char) : 0x3C ∈ bs := by
    obtain ⟨c, hc, he⟩ := List.mem_map.1 h
    cases he
    exact Utf16.bracket_mem_of_mem_decode hc
  unfold decode at h
  split at h
  · exact List.mem_cons_of_mem _ (List.mem_cons_of_mem _ (hunits h))
  · exact List.mem_cons_of_mem _ (List.mem_cons_of_mem _ (hunits h))
  · exact hunits h
  · exact hunits h
  · exact List.mem_cons_of_mem _ (List.mem_cons_of_mem _ (List.mem_cons_of_mem _
      (Utf8.bracket_mem_of_mem_decode h)))
  · exact Utf8.bracket_mem_of_mem_decode h

theorem trimPadding_subset (s : List Glyph) : trimPadding s ⊆ s := by
  intro g hg
  have hg := List.dropWhile_subset _ (List.mem_reverse.1 hg)
  exact List.mem_reverse.1 hg

theorem parse_error_of_no_bracket (h : .char '<' ∉ decode doc) :
    ∃ fault, parse doc = .error fault :=
  Markup.read_error_of_no_bracket Charset.index fun hmem => h (trimPadding_subset _ hmem)

theorem no_bracket_of_isBlank (h : isBlank doc = true) : .char '<' ∉ decode doc := by
  intro hmem
  have hbyte := List.all_eq_true.1 h _ (bracket_mem_of_mem_decode hmem)
  exact absurd hbyte (by decide)

/-- **A blank document has no element.** -/
theorem parse_error_of_isBlank (h : isBlank doc = true) : ∃ fault, parse doc = .error fault :=
  parse_error_of_no_bracket (no_bracket_of_isBlank h)

end Document

/-! ### Blank documents in between -/

theorem Except.toOption_map {ε α β : Type} (f : α → β) (x : Except ε α) :
    (x.map f).toOption = x.toOption.map f := by
  cases x <;> rfl

/-- **The same event documents with blank ones put in between**, at any places. -/
inductive AddsBlanks : List Bytes → List Bytes → Prop
  /-- No document. -/
  | nil : AddsBlanks [] []
  /-- A document that was there. -/
  | keep (doc : Bytes) {events events' : List Bytes} (h : AddsBlanks events events') :
      AddsBlanks (doc :: events) (doc :: events')
  /-- A blank document that was not. -/
  | blank {doc : Bytes} (hb : Document.isBlank doc = true) {events events' : List Bytes}
      (h : AddsBlanks events events') : AddsBlanks events (doc :: events')

namespace Decompiler

/-- The place of a document only shows in the wording of its failure. -/
theorem toOption_readEvent (i j : Nat) (doc : Bytes) :
    (readEvent i doc).toOption = (readEvent j doc).toOption := by
  unfold readEvent
  split
  · rfl
  · split <;> rfl

end Decompiler

namespace AddsBlanks

open Decompiler

variable {events events' : List Bytes}

/-- **What is read**, and whether there is a fault, does not depend on blank documents. -/
theorem readEvents_eq (h : AddsBlanks events events') (i j : Nat) :
    (readEvents j events').1.toOption = (readEvents i events).1.toOption ∧
      (readEvents j events').2 = (readEvents i events).2 := by
  induction h generalizing i j with
  | nil => exact ⟨rfl, rfl⟩
  | blank hb _ ih =>
      rw [readEvents_blank hb]
      exact ih i (j + 1)
  | keep doc _ ih =>
      obtain ⟨hkey, helements⟩ := ih (i + 1) (j + 1)
      have hplace := toOption_readEvent j i doc
      cases hb : Document.isBlank doc with
      | true =>
          rw [readEvents_blank hb, readEvents_blank hb]
          exact ⟨hkey, helements⟩
      | false =>
          cases hi : readEvent i doc with
          | error e =>
              rw [hi] at hplace
              cases hj : readEvent j doc with
              | error e' =>
                  rw [readEvents_error hb hi, readEvents_error hb hj]
                  exact ⟨rfl, rfl⟩
              | ok p =>
                  rw [hj] at hplace
                  cases hplace
          | ok p =>
              rw [hi] at hplace
              have hj := Except.eq_ok_of_toOption hplace
              rw [readEvents_ok hb hi, readEvents_ok hb hj]
              dsimp only
              rw [Except.toOption_map, Except.toOption_map, hkey, helements]
              exact ⟨rfl, rfl⟩

/-- **A pass over documents with blank ones in between**: it has the same result, if it has one, and
it leaves the decompiler and the source in the same state in any case. -/
theorem decompile_eq {σ : Type} (h : AddsBlanks events events') (source : Option (Source σ))
    (template : Bytes) (d : Decompiler) (s : σ) :
    (decompile source events' template d s).1.toOption =
        (decompile source events template d s).1.toOption ∧
      (decompile source events' template d s).2 = (decompile source events template d s).2 := by
  cases ht : readTemplate template with
  | error e =>
      rw [decompile_eq_of_template_error ht, decompile_eq_of_template_error ht]
      exact ⟨rfl, rfl⟩
  | ok primary =>
      obtain ⟨hkey, helements⟩ := h.readEvents_eq 0 0
      rw [decompile_eq_of_template ht, decompile_eq_of_template ht]
      dsimp only
      rw [Except.toOption_map, Except.toOption_map, hkey, helements]
      exact ⟨rfl, rfl⟩

end AddsBlanks

/-- **Blank documents lose nothing.**  A blank document has no bracket in the encoding that it is
taken for, and reading it fails.  Blank documents that are put in between other event documents, at
any places, do not change the result of a pass that succeeds, nor what it leaves behind. -/
theorem blank_documents_lose_nothing :
    (∀ doc, Document.isBlank doc = true →
      .char '<' ∉ Document.decode doc ∧ ∃ fault, Document.parse doc = .error fault) ∧
    ∀ {σ : Type} (source : Option (Source σ)) (events events' : List Bytes) (template : Bytes)
      (d : Decompiler) (s : σ) (result : Decompiled), AddsBlanks events events' →
      (Decompiler.decompile source events template d s).1 = .ok result →
        Decompiler.decompile source events' template d s =
          Decompiler.decompile source events template d s := by
  refine ⟨fun doc hb => ⟨Document.no_bracket_of_isBlank hb, Document.parse_error_of_isBlank hb⟩, ?_⟩
  intro σ source events events' template d s result h hok
  obtain ⟨hresult, hstate⟩ := h.decompile_eq source template d s
  rw [hok] at hresult
  exact Prod.ext ((Except.eq_ok_of_toOption hresult).trans hok.symm) hstate

/-- One event among blank documents that are taken for UTF-16 and for UTF-8. -/
theorem blank_documents_lose_nothing_marked :
    let event : Bytes := "<E szEventSpecKey='K'><GBRSLBF summary_text='x'/></E>".toUTF8.toList
    let units : Bytes := [0xFF, 0xFE, 0x20, 0x00]
    let marked : Bytes := [0xEF, 0xBB, 0xBF, 0x0A]
    let pass (events : List Bytes) :=
      Decompiler.decompile (none : Option (Source Unit)) events [] {} ()
    (Document.isBlank units = true ∧ ∃ fault, Document.parse units = .error fault) ∧
      AddsBlanks [event] [units, event, [], marked] ∧
      (pass [event]).1 = .ok ⟨"K", "", [⟨0, "x"⟩]⟩ ∧
      pass [units, event, [], marked] = pass [event] := by
  intro event units marked pass
  have hblank : Document.isBlank units = true := rfl
  have hadds : AddsBlanks [event] [units, event, [], marked] :=
    .blank hblank (.keep event (.blank rfl (.blank rfl .nil)))
  have hpass : (pass [event]).1 = .ok ⟨"K", "", [⟨0, "x"⟩]⟩ :=
    Except.eq_ok_of_toOption (by decide +kernel)
  exact ⟨⟨hblank, (blank_documents_lose_nothing.1 units hblank).2⟩, hadds, hpass,
    blank_documents_lose_nothing.2 none _ _ _ _ _ _ hadds hpass⟩

end EventRules

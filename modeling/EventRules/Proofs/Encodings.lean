/-
**The encoding of a document does not matter.**

A document may come as UTF-8 or as UTF-16 in either byte order, with a byte order mark or without,
and it may be padded with NUL characters.  Which encoding it is shows in the first two bytes, as a
document starts with a bracket: the bracket is one byte in UTF-8, and has a zero byte beside it in
UTF-16.  So the one text that could be mistaken is a bracket followed by a NUL character.

All that is read afterwards are characters.  A declaration inside the document may still name a
character set; whatever it names, and whatever is known by that name, it finds the same characters
after it.

Main definitions:

* `Encoding`, `Encoding.bytes`, `Encoding.mark` — the encodings and their byte order marks;
* `Encoding.document` — characters as a document.

Main results:

* `Utf16.decode_encodeChars` — the UTF-16 bytes of characters give these characters;
* `Document.decode_document` — **each document gives its characters**;
* `parse_document` — all documents of a text are read alike.
-/

import EventRules.Proofs.Decoding
import EventRules.Markup.Reader

set_option relaxedAutoImplicit false
set_option autoImplicit false

namespace EventRules

/-! ### UTF-16 -/

namespace Utf16

variable {order : ByteOrder} {u : Nat}

/-- The bytes of a code unit form that unit again. -/
theorem units_unitBytes (h : u < 0x10000) (bs : Bytes) :
    units order (unitBytes order u ++ bs) = some u :: units order bs := by
  have hlow : (UInt8.ofNat (u % 256)).toNat = u % 256 := Utf8.toNat_ofNat (by omega)
  have hhigh : (UInt8.ofNat (u / 256)).toNat = u / 256 := Utf8.toNat_ofNat (by omega)
  have hsum : u / 256 * 256 + u % 256 = u := by omega
  cases order with
  | little =>
      simp only [unitBytes, List.cons_append, List.nil_append, units, unit, hlow, hhigh, hsum]
  | big =>
      simp only [unitBytes, List.cons_append, List.nil_append, units, unit, hlow, hhigh, hsum]

/-- A unit that is no surrogate stands for itself, whatever comes after it. -/
theorem ofUnits_single (hh : isHigh u = false) (hl : isLow u = false) (rest : List (Option Nat)) :
    ofUnits (some u :: rest) = Char.ofNat u :: ofUnits rest := by
  cases rest with
  | nil => simp [ofUnits, hh, hl]
  | cons v rest =>
      cases v with
      | none => simp [ofUnits, hh, hl]
      | some v => simp [ofUnits, hh, hl]

theorem ofUnits_pair {high low : Nat} (hh : isHigh high = true) (hl : isLow low = true)
    (rest : List (Option Nat)) :
    ofUnits (some high :: some low :: rest) = pair high low :: ofUnits rest := by
  simp [ofUnits, hh, hl]

/-- The bytes of a character give that character, whatever comes after them. -/
theorem ofUnits_encodeChar (c : Char) (bs : Bytes) :
    ofUnits (units order (encodeChar order c ++ bs)) = c :: ofUnits (units order bs) := by
  have hchar : Char.ofNat c.toNat = c := Char.ofNat_toNat c
  have hvalid : c.toNat < 0xD800 ∨ 0xDFFF < c.toNat ∧ c.toNat < 0x110000 := c.valid
  unfold encodeChar
  generalize c.toNat = n at hchar hvalid
  dsimp only
  split
  · rename_i hn
    -- no character has the number of a surrogate, so neither test holds of its only unit
    have hh : isHigh n = false := by
      simp [isHigh]
      omega
    have hl : isLow n = false := by
      simp [isLow]
      omega
    rw [units_unitBytes hn, ofUnits_single hh hl, hchar]
  · obtain ⟨m, rfl⟩ : ∃ m, n = m + 0x10000 := ⟨n - 0x10000, by omega⟩
    rw [Nat.add_sub_cancel]
    have hh : isHigh (m / 0x400 + 0xD800) = true := by
      simp [isHigh]
      omega
    have hl : isLow (m % 0x400 + 0xDC00) = true := by
      simp [isLow]
      omega
    have hpair : pair (m / 0x400 + 0xD800) (m % 0x400 + 0xDC00) = c := by
      have hm : m / 0x400 * 0x400 + m % 0x400 + 0x10000 = m + 0x10000 := by omega
      rw [pair, Nat.add_sub_cancel, Nat.add_sub_cancel, hm, hchar]
    rw [List.append_assoc, units_unitBytes (by omega), units_unitBytes (by omega),
      ofUnits_pair hh hl, hpair]

/-- **The UTF-16 bytes of characters give these characters.** -/
theorem decode_encodeChars (cs : List Char) : decode order (encodeChars order cs) = cs := by
  unfold decode
  induction cs with
  | nil => rfl
  | cons c cs ih =>
      rw [encodeChars, List.flatMap_cons, ofUnits_encodeChar]
      exact congrArg (c :: ·) ih

end Utf16

/-! ### Encodings -/

/-- **An encoding of characters.** -/
inductive Encoding where
  /-- One to four bytes for a character. -/
  | utf8
  /-- One or two units of two bytes for a character. -/
  | utf16 (order : Utf16.ByteOrder)
  deriving DecidableEq, Repr

namespace Encoding

/-- The bytes of characters. -/
def bytes : Encoding → List Char → Bytes
  | .utf8 => Utf8.encodeChars
  | .utf16 order => Utf16.encodeChars order

/-- The byte order mark. -/
def mark (e : Encoding) : Bytes :=
  e.bytes [Char.ofNat 0xFEFF]

/-- **The document of characters**, with or without a byte order mark. -/
def document (e : Encoding) (marked : Bool) (cs : List Char) : Bytes :=
  if marked then e.mark ++ e.bytes cs else e.bytes cs

example : (mark .utf8, mark (.utf16 .little), mark (.utf16 .big)) =
    ([0xEF, 0xBB, 0xBF], [0xFF, 0xFE], [0xFE, 0xFF]) := by
  decide

end Encoding

/-! ### Reading documents -/

namespace Document

/-- The bytes of no character but NUL begin with a zero. -/
theorem exists_utf8EncodeChar {c : Char} (hc : c ≠ Char.ofNat 0) :
    ∃ b bs, String.utf8EncodeChar c = b :: bs ∧ b ≠ 0 := by
  obtain ⟨b, bs, hbytes, hfront⟩ := Utf8.front?_utf8EncodeChar c
  refine ⟨b, bs, hbytes, ?_⟩
  rintro rfl
  have hnul : Utf8.front? 0 (bs ++ []) = some (Char.ofNat 0, 0) := rfl
  have hsame : some (Char.ofNat 0, 0) = some (c, bs.length) := hnul.symm.trans (hfront [])
  exact hc (congrArg Prod.fst (Option.some.inj hsame)).symm

/-- Without a mark a text is taken as UTF-8 if it starts with a bracket and no NUL after it. -/
theorem decode_encodeChars {c : Char} (hc : c ≠ Char.ofNat 0) (cs : List Char) :
    decode (Utf8.encodeChars ('<' :: c :: cs)) = ('<' :: c :: cs).map .char := by
  obtain ⟨b, bs, hbytes, hb⟩ := exists_utf8EncodeChar hc
  have hstart : Utf8.encodeChars ('<' :: c :: cs) = 0x3C :: b :: (bs ++ Utf8.encodeChars cs) := by
    rw [Utf8.encodeChars, List.flatMap_cons, List.flatMap_cons, hbytes]
    rfl
  rw [← Utf8.decode_encodeChars, hstart]
  unfold decode
  -- of the six beginnings only UTF-16 without a mark shares the bracket
  split
  case h_3 heq => exact absurd (List.cons.inj (List.cons.inj heq).2).1 hb
  case h_6 => rfl
  all_goals cases ‹_ = _›

/-- **Each document gives its characters.** -/
theorem decode_document (e : Encoding) (marked : Bool) {c : Char} (hc : c ≠ Char.ofNat 0)
    (cs : List Char) :
    decode (e.document marked ('<' :: c :: cs)) = ('<' :: c :: cs).map .char := by
  cases e with
  | utf8 =>
      cases marked with
      | true => exact Utf8.decode_encodeChars ('<' :: c :: cs)
      | false => exact decode_encodeChars hc cs
  | utf16 order =>
      have hcs : Utf16.decode order (Utf16.encodeChars order ('<' :: c :: cs)) = '<' :: c :: cs :=
        Utf16.decode_encodeChars _
      cases order with
      | little => cases marked <;> exact congrArg (List.map Glyph.char) hcs
      | big => cases marked <;> exact congrArg (List.map Glyph.char) hcs

/-- Padding is no part of the text. -/
theorem trimPadding_append (s : List Glyph) (padding : Nat) :
    trimPadding (s ++ List.replicate padding (.char (Char.ofNat 0))) = trimPadding s := by
  unfold trimPadding
  rw [List.reverse_append, List.reverse_replicate]
  induction padding with
  | zero => rfl
  | succ n ih =>
      rw [List.replicate_succ, List.cons_append, List.dropWhile_cons, if_pos (by simp)]
      exact ih

end Document

/-- **All documents of a text are read alike.**  The text starts with a bracket, and its second
character is not NUL.  However it is encoded, with or without a byte order mark, and however many
NUL characters are put behind it, it is read as its UTF-8 bytes alone are: the same tree, or the
same fault.  This is so with any index of character sets. -/
theorem parse_document (index : CharsetIndex) (e : Encoding) (marked : Bool) {c : Char}
    (hc : c ≠ Char.ofNat 0) (cs : List Char) (padding : Nat) :
    Document.parseWith index
        (e.document marked ('<' :: c :: cs ++ List.replicate padding (Char.ofNat 0))) =
      Document.parseWith index (Utf8.encodeChars ('<' :: c :: cs)) := by
  have hpadded : Document.decode
      (e.document marked ('<' :: c :: cs ++ List.replicate padding (Char.ofNat 0))) =
        ('<' :: c :: cs).map .char ++ List.replicate padding (.char (Char.ofNat 0)) := by
    rw [List.cons_append, List.cons_append, Document.decode_document e marked hc,
      ← List.cons_append, ← List.cons_append, List.map_append, List.map_replicate]
  rw [Document.parseWith, Document.parseWith, hpadded, Document.trimPadding_append,
    Document.decode_encodeChars hc]

/-- A text with a character outside the basic plane that declares a single-byte character set: in
all six documents the declared set gives `é` the two characters of its two bytes. -/
theorem parse_document_declared :
    let text := "<!--😀--><?xml encoding='l2'?><E b='é'/>".toList
    (∃ c cs, text = '<' :: c :: cs ∧ c ≠ Char.ofNat 0) ∧
      ∀ e marked,
        Document.parse
            (Encoding.document e marked (text ++ List.replicate 3 (Char.ofNat 0))) =
          Document.parse (Utf8.encodeChars text) ∧
        (Document.parse (Utf8.encodeChars text)).toOption.map (·.attr ["b"]) = some "ĂŠ" := by
  intro text
  refine ⟨⟨'!', text.drop 2, by decide, by decide⟩, fun e marked => ⟨?_, by decide +kernel⟩⟩
  exact parse_document Charset.index e marked (by decide : '!' ≠ Char.ofNat 0) (text.drop 2) 3

end EventRules

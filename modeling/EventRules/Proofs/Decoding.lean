/-
**Decoding inverts encoding.**

The UTF-8 bytes of a character are one to four, and the first one tells how many.  Decoding takes
the ranges that well-formed sequences have apart again: a sequence that is longer than it need be,
or that writes half of a surrogate pair, is none, so what has to be shown is that no character is
written in one of these ways.

Main results:

* `Utf8.front?_utf8EncodeChar` — the bytes of a character give that character and no more;
* `Utf8.decode_encodeChars` — **the bytes of characters give these characters**.
-/

import EventRules.Text.Glyph

set_option relaxedAutoImplicit false
set_option autoImplicit false

namespace EventRules.Utf8

variable {n v : Nat}

/-! ### Bytes as numbers -/

theorem toNat_ofNat (h : n < 256) : (UInt8.ofNat n).toNat = n :=
  UInt8.toNat_ofNat_of_lt' h

theorem ofNat_lt (h : n < 256) (b : UInt8) : UInt8.ofNat n < b ↔ n < b.toNat := by
  rw [UInt8.lt_iff_toNat_lt, toNat_ofNat h]

theorem ofNat_le (h : n < 256) (b : UInt8) : UInt8.ofNat n ≤ b ↔ n ≤ b.toNat := by
  rw [UInt8.le_iff_toNat_le, toNat_ofNat h]

theorem le_ofNat (h : n < 256) (b : UInt8) : b ≤ UInt8.ofNat n ↔ b.toNat ≤ n := by
  rw [UInt8.le_iff_toNat_le, toNat_ofNat h]

theorem ofNat_eq (h : n < 256) (b : UInt8) : UInt8.ofNat n = b ↔ n = b.toNat := by
  rw [← UInt8.toNat_inj, toNat_ofNat h]

/-- A continuation byte carries six bits. -/
theorem tailBits_ofNat (h : n < 64) : tailBits (UInt8.ofNat (n + 128)) = n := by
  have hb : n + 128 < 256 := by omega
  unfold tailBits
  rw [toNat_ofNat hb, Nat.add_sub_cancel]

theorem isTail_ofNat (h : n < 64) : isTail (UInt8.ofNat (n + 128)) = true := by
  have hb : n + 128 < 256 := by omega
  simp only [isTail, Bool.and_eq_true, decide_eq_true_eq, le_ofNat hb, ofNat_le hb]
  exact ⟨Nat.le_add_left 128 n, show n + 128 ≤ 191 by omega⟩

/-! ### First bytes -/

/-- What the first byte of a sequence says, for its number. -/
theorem lead?_ofNat (h : n < 256) :
    lead? (UInt8.ofNat n) =
      if n < 0xC2 then none
      else if n ≤ 0xDF then some (0x80, 0xBF, 2)
      else if n = 0xE0 then some (0xA0, 0xBF, 3)
      else if n = 0xED then some (0x80, 0x9F, 3)
      else if n ≤ 0xEF then some (0x80, 0xBF, 3)
      else if n = 0xF0 then some (0x90, 0xBF, 4)
      else if n ≤ 0xF3 then some (0x80, 0xBF, 4)
      else if n = 0xF4 then some (0x80, 0x8F, 4)
      else none := by
  unfold lead?
  simp only [ofNat_lt h, ofNat_le h, ofNat_eq h]
  rfl

/-- The second byte of a sequence is in the range that the first one allows. -/
def SecondFits (first second : Nat) (length : Nat) : Prop :=
  ∃ low high, lead? (UInt8.ofNat first) = some (low, high, length) ∧
    low.toNat ≤ second ∧ second ≤ high.toNat

theorem secondFits_two (h : 0xC2 ≤ n) (h' : n ≤ 0xDF) (hv : v < 64) :
    SecondFits n (v + 128) 2 := by
  refine ⟨0x80, 0xBF, ?_, Nat.le_add_left 128 v, show v + 128 ≤ 191 by omega⟩
  rw [lead?_ofNat (by omega), if_neg (by omega), if_pos h']

/-- Three bytes: not fewer would do, and it is no surrogate. -/
theorem secondFits_three (h : 0xE0 ≤ n) (h' : n ≤ 0xEF) (hv : v < 64) (hlong : n = 0xE0 → 32 ≤ v)
    (hsurrogate : n = 0xED → v < 32) : SecondFits n (v + 128) 3 := by
  unfold SecondFits
  rw [lead?_ofNat (by omega), if_neg (by omega), if_neg (by omega)]
  split
  · exact ⟨0xA0, 0xBF, rfl, show 160 ≤ v + 128 by omega, show v + 128 ≤ 191 by omega⟩
  · split
    · exact ⟨0x80, 0x9F, rfl, Nat.le_add_left 128 v, show v + 128 ≤ 159 by omega⟩
    · exact ⟨0x80, 0xBF, rfl, Nat.le_add_left 128 v, show v + 128 ≤ 191 by omega⟩

/-- Four bytes: not fewer would do, and it is no number beyond the last character. -/
theorem secondFits_four (h : 0xF0 ≤ n) (h' : n ≤ 0xF4) (hv : v < 64) (hlong : n = 0xF0 → 16 ≤ v)
    (hlast : n = 0xF4 → v < 16) : SecondFits n (v + 128) 4 := by
  unfold SecondFits
  rw [lead?_ofNat (by omega), if_neg (by omega), if_neg (by omega), if_neg (by omega),
    if_neg (by omega), if_neg (by omega)]
  split
  · exact ⟨0x90, 0xBF, rfl, show 144 ≤ v + 128 by omega, show v + 128 ≤ 191 by omega⟩
  · split
    · exact ⟨0x80, 0xBF, rfl, Nat.le_add_left 128 v, show v + 128 ≤ 191 by omega⟩
    · rw [if_pos (by omega)]
      exact ⟨0x80, 0x8F, rfl, Nat.le_add_left 128 v, show v + 128 ≤ 143 by omega⟩

/-! ### Sequences -/

/-- Sequences of one byte. -/
theorem front?_one (h : v < 128) (rest : Bytes) :
    front? (UInt8.ofNat v) rest = some (Char.ofNat v, 0) := by
  unfold front?
  rw [if_pos ((ofNat_lt (by omega) _).2 h), toNat_ofNat (by omega)]

theorem not_ofNat_lt (h : 128 ≤ n) (h' : n < 256) : ¬ UInt8.ofNat n < 0x80 := by
  rw [ofNat_lt h']
  exact Nat.not_lt.2 h

/-- Sequences of two bytes. -/
theorem front?_two {a b : Nat} (ha : 2 ≤ a) (ha' : a < 32) (hb : b < 64) (rest : Bytes) :
    front? (UInt8.ofNat (a + 192)) (UInt8.ofNat (b + 128) :: rest) =
      some (Char.ofNat (a * 64 + b), 1) := by
  obtain ⟨low, high, hlead, hlow, hhigh⟩ := secondFits_two (n := a + 192) (by omega) (by omega) hb
  have hfits : (low ≤ UInt8.ofNat (b + 128) && UInt8.ofNat (b + 128) ≤ high) = true := by
    simp only [Bool.and_eq_true, decide_eq_true_eq, le_ofNat (show b + 128 < 256 by omega),
      ofNat_le (show b + 128 < 256 by omega)]
    exact ⟨hlow, hhigh⟩
  unfold front?
  rw [if_neg (not_ofNat_lt (by omega) (by omega)), hlead]
  simp only [hfits, if_true, tailBits_ofNat hb, toNat_ofNat (show a + 192 < 256 by omega),
    Nat.add_sub_cancel]

/-- Sequences of three bytes. -/
theorem front?_three {a b c : Nat} (ha : a < 16) (hb : b < 64) (hc : c < 64)
    (hlong : a = 0 → 32 ≤ b) (hsurrogate : a = 13 → b < 32) (rest : Bytes) :
    front? (UInt8.ofNat (a + 224)) (UInt8.ofNat (b + 128) :: UInt8.ofNat (c + 128) :: rest) =
      some (Char.ofNat ((a * 64 + b) * 64 + c), 2) := by
  obtain ⟨low, high, hlead, hlow, hhigh⟩ := secondFits_three (n := a + 224) (by omega) (by omega) hb
    (fun h => hlong (by omega)) (fun h => hsurrogate (by omega))
  have hfits : (low ≤ UInt8.ofNat (b + 128) && UInt8.ofNat (b + 128) ≤ high &&
      isTail (UInt8.ofNat (c + 128))) = true := by
    simp only [isTail_ofNat hc, Bool.and_true, Bool.and_eq_true, decide_eq_true_eq,
      le_ofNat (show b + 128 < 256 by omega), ofNat_le (show b + 128 < 256 by omega)]
    exact ⟨hlow, hhigh⟩
  unfold front?
  rw [if_neg (not_ofNat_lt (by omega) (by omega)), hlead]
  simp only [hfits, if_true, tailBits_ofNat hb, tailBits_ofNat hc,
    toNat_ofNat (show a + 224 < 256 by omega), Nat.add_sub_cancel]

/-- Sequences of four bytes. -/
theorem front?_four {a b c d : Nat} (ha : a < 5) (hb : b < 64) (hc : c < 64) (hd : d < 64)
    (hlong : a = 0 → 16 ≤ b) (hlast : a = 4 → b < 16) (rest : Bytes) :
    front? (UInt8.ofNat (a + 240))
        (UInt8.ofNat (b + 128) :: UInt8.ofNat (c + 128) :: UInt8.ofNat (d + 128) :: rest) =
      some (Char.ofNat (((a * 64 + b) * 64 + c) * 64 + d), 3) := by
  obtain ⟨low, high, hlead, hlow, hhigh⟩ := secondFits_four (n := a + 240) (by omega) (by omega) hb
    (fun h => hlong (by omega)) (fun h => hlast (by omega))
  have hfits : (low ≤ UInt8.ofNat (b + 128) && UInt8.ofNat (b + 128) ≤ high &&
      isTail (UInt8.ofNat (c + 128)) && isTail (UInt8.ofNat (d + 128))) = true := by
    simp only [isTail_ofNat hc, isTail_ofNat hd, Bool.and_true, Bool.and_eq_true, decide_eq_true_eq,
      le_ofNat (show b + 128 < 256 by omega), ofNat_le (show b + 128 < 256 by omega)]
    exact ⟨hlow, hhigh⟩
  unfold front?
  rw [if_neg (not_ofNat_lt (by omega) (by omega)), hlead]
  simp only [hfits, if_true, tailBits_ofNat hb, tailBits_ofNat hc, tailBits_ofNat hd,
    toNat_ofNat (show a + 240 < 256 by omega), Nat.add_sub_cancel]

/-- **The bytes of a character give that character and no more.** -/
theorem front?_utf8EncodeChar (c : Char) :
    ∃ b bs, String.utf8EncodeChar c = b :: bs ∧
      ∀ rest, front? b (bs ++ rest) = some (c, bs.length) := by
  have hchar : Char.ofNat c.val.toNat = c := Char.ofNat_toNat c
  have hvalid : c.val.toNat < 0xD800 ∨ 0xDFFF < c.val.toNat ∧ c.val.toNat < 0x110000 := c.valid
  unfold String.utf8EncodeChar
  generalize c.val.toNat = v at hchar hvalid
  dsimp only
  split
  · refine ⟨_, [], rfl, fun rest => ?_⟩
    rw [front?_one (by omega), hchar]
    rfl
  · split
    · refine ⟨_, [_], rfl, fun rest => ?_⟩
      have hv : v / 64 % 32 * 64 + v % 64 = v := by omega
      rw [← hv] at hchar
      exact (front?_two (by omega) (by omega) (by omega) rest).trans (by rw [hchar]; rfl)
    · split
      · refine ⟨_, [_, _], rfl, fun rest => ?_⟩
        have hv : (v / 4096 % 16 * 64 + v / 64 % 64) * 64 + v % 64 = v := by omega
        rw [← hv] at hchar
        exact (front?_three (by omega) (by omega) (by omega) (by omega) (by omega) rest).trans
          (by rw [hchar]; rfl)
      · refine ⟨_, [_, _, _], rfl, fun rest => ?_⟩
        have hv : ((v / 262144 % 8 * 64 + v / 4096 % 64) * 64 + v / 64 % 64) * 64 + v % 64 = v := by
          omega
        rw [← hv] at hchar
        exact (front?_four (by omega) (by omega) (by omega) (by omega) (by omega) (by omega)
          rest).trans (by rw [hchar]; rfl)

/-- **Decoding inverts encoding.** -/
theorem decode_encodeChars (cs : List Char) : decode (encodeChars cs) = cs.map .char := by
  unfold decode
  induction cs with
  | nil => rfl
  | cons c cs ih =>
      obtain ⟨b, bs, hc, hfront⟩ := front?_utf8EncodeChar c
      have hbytes : encodeChars (c :: cs) = b :: (bs ++ encodeChars cs) := by
        rw [encodeChars, List.flatMap_cons, hc]
        rfl
      rw [hbytes, decodeFrom, hfront]
      dsimp only
      rw [decodeFrom_eq_drop, List.drop_left, ih, List.map_cons]

end EventRules.Utf8

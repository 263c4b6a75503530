/-
What is written in UTF-8 is read as it was.

* `isTail_ofNat`, `pushTail_ofNat`: tail bytes continue a character, and give back their six bits;
* `decodeUtf8From_encodeChar`: a character in front of other bytes is read as that character,
  whatever number of bytes it has;
* `decodeUtf8_encodeUtf8`: a whole text.
-/
import Mathlib.Tactic
import ShaderPreprocessor.Text.Utf8

namespace ShaderPreprocessor.Text

variable {n : ℕ}

/-- Bytes compare as their numbers. -/
lemma ofNat_lt_iff (hn : n < 256) (b : UInt8) : UInt8.ofNat n < b ↔ n < b.toNat := by
  rw [UInt8.lt_iff_toNat_lt, UInt8.toNat_ofNat_of_lt' hn]

lemma le_ofNat_iff (hn : n < 256) (b : UInt8) : b ≤ UInt8.ofNat n ↔ b.toNat ≤ n := by
  rw [UInt8.le_iff_toNat_le, UInt8.toNat_ofNat_of_lt' hn]

lemma ofNat_le_iff (hn : n < 256) (b : UInt8) : UInt8.ofNat n ≤ b ↔ n ≤ b.toNat := by
  rw [UInt8.le_iff_toNat_le, UInt8.toNat_ofNat_of_lt' hn]

lemma ofNat_eq_iff (hn : n < 256) (b : UInt8) : UInt8.ofNat n = b ↔ n = b.toNat := by
  rw [← UInt8.toNat_inj, UInt8.toNat_ofNat_of_lt' hn]

/-! ### Tail bytes -/

/-- A tail byte continues a character. -/
lemma isTail_ofNat (n : ℕ) : isTail (.ofNat (0x80 + n % 64)) = true := by
  have hbyte : 0x80 + n % 64 < 256 := by omega
  simp only [isTail, Bool.and_eq_true, decide_eq_true_eq, le_ofNat_iff hbyte, ofNat_le_iff hbyte,
    UInt8.reduceToNat]
  omega

/-- A tail byte gives back its six bits. -/
lemma pushTail_ofNat (m n : ℕ) : pushTail m (.ofNat (0x80 + n % 64)) = 64 * m + n % 64 := by
  have hbyte : 0x80 + n % 64 < 256 := by omega
  have hbits : (UInt8.ofNat (0x80 + n % 64)).toNat - 0x80 = n % 64 := by
    rw [UInt8.toNat_ofNat_of_lt' hbyte, Nat.add_sub_cancel_left]
  unfold pushTail
  rw [hbits]

/-- The second of three bytes is neither that of an over-long form nor that of half a pair. -/
lemma isSecondOfThree_ofNat (hle : 0x800 ≤ n) (hlt : n < 0x10000)
    (hvalid : n < 0xD800 ∨ 0xDFFF < n) :
    isSecondOfThree (.ofNat (0xE0 + n / 4096)) (.ofNat (0x80 + n / 64 % 64)) = true := by
  have hfirst : 0xE0 + n / 4096 < 256 := by omega
  have hsecond : 0x80 + n / 64 % 64 < 256 := by omega
  simp only [isSecondOfThree, isTail_ofNat, Bool.true_and, Bool.and_eq_true, Bool.or_eq_true,
    decide_eq_true_eq, ne_eq, ofNat_eq_iff hfirst, le_ofNat_iff hsecond, ofNat_le_iff hsecond,
    UInt8.reduceToNat]
  omega

/-- The second of four bytes is neither that of an over-long form nor beyond the last code
point. -/
lemma isSecondOfFour_ofNat (hle : 0x10000 ≤ n) (hlt : n < 0x110000) :
    isSecondOfFour (.ofNat (0xF0 + n / 262144)) (.ofNat (0x80 + n / 4096 % 64)) = true := by
  have hfirst : 0xF0 + n / 262144 < 256 := by omega
  have hsecond : 0x80 + n / 4096 % 64 < 256 := by omega
  simp only [isSecondOfFour, isTail_ofNat, Bool.true_and, Bool.and_eq_true, Bool.or_eq_true,
    decide_eq_true_eq, ne_eq, ofNat_eq_iff hfirst, le_ofNat_iff hsecond, ofNat_le_iff hsecond,
    UInt8.reduceToNat]
  omega

/-! ### Characters -/

section

variable {position : ℕ} (rest : List UInt8)

/-- A character of one byte. -/
lemma decodeUtf8From_one (hlt : n < 0x80) :
    decodeUtf8From position (.ofNat n :: rest) =
      (decodeUtf8From (position + 1) rest).map (Char.ofNat n :: ·) := by
  have hbyte : n < 256 := by omega
  have hfirst : UInt8.ofNat n < 0x80 := (ofNat_lt_iff hbyte _).2 hlt
  rw [decodeUtf8From.eq_def]
  dsimp only
  rw [if_pos hfirst, UInt8.toNat_ofNat_of_lt' hbyte]

/-- A character of two bytes. -/
lemma decodeUtf8From_two (hle : 0x80 ≤ n) (hlt : n < 0x800) :
    decodeUtf8From position (.ofNat (0xC0 + n / 64) :: .ofNat (0x80 + n % 64) :: rest) =
      (decodeUtf8From (position + 2) rest).map (Char.ofNat n :: ·) := by
  have hbyte : 0xC0 + n / 64 < 256 := by omega
  have hvalue : 64 * (0xC0 + n / 64 - 0xC0) + n % 64 = n := by omega
  rw [decodeUtf8From.eq_def]
  simp only [ofNat_lt_iff hbyte, UInt8.reduceToNat]
  rw [if_neg (show ¬ 0xC0 + n / 64 < 0x80 by omega), if_neg (show ¬ 0xC0 + n / 64 < 0xC2 by omega),
    if_pos (show 0xC0 + n / 64 < 0xE0 by omega), if_pos (isTail_ofNat n), pushTail_ofNat,
    UInt8.toNat_ofNat_of_lt' hbyte, hvalue]

/-- A character of three bytes. -/
lemma decodeUtf8From_three (hle : 0x800 ≤ n) (hlt : n < 0x10000)
    (hvalid : n < 0xD800 ∨ 0xDFFF < n) :
    decodeUtf8From position (.ofNat (0xE0 + n / 4096) :: .ofNat (0x80 + n / 64 % 64) ::
        .ofNat (0x80 + n % 64) :: rest) =
      (decodeUtf8From (position + 3) rest).map (Char.ofNat n :: ·) := by
  have hbyte : 0xE0 + n / 4096 < 256 := by omega
  have hvalue : 64 * (64 * (0xE0 + n / 4096 - 0xE0) + n / 64 % 64) + n % 64 = n := by omega
  rw [decodeUtf8From.eq_def]
  simp only [ofNat_lt_iff hbyte, UInt8.reduceToNat]
  rw [if_neg (show ¬ 0xE0 + n / 4096 < 0x80 by omega),
    if_neg (show ¬ 0xE0 + n / 4096 < 0xC2 by omega),
    if_neg (show ¬ 0xE0 + n / 4096 < 0xE0 by omega), if_pos (show 0xE0 + n / 4096 < 0xF0 by omega),
    if_pos (isSecondOfThree_ofNat hle hlt hvalid), if_pos (isTail_ofNat n), pushTail_ofNat,
    pushTail_ofNat, UInt8.toNat_ofNat_of_lt' hbyte, hvalue]

/-- A character of four bytes. -/
lemma decodeUtf8From_four (hle : 0x10000 ≤ n) (hlt : n < 0x110000) :
    decodeUtf8From position (.ofNat (0xF0 + n / 262144) :: .ofNat (0x80 + n / 4096 % 64) ::
        .ofNat (0x80 + n / 64 % 64) :: .ofNat (0x80 + n % 64) :: rest) =
      (decodeUtf8From (position + 4) rest).map (Char.ofNat n :: ·) := by
  have hbyte : 0xF0 + n / 262144 < 256 := by omega
  have hvalue : 64 * (64 * (64 * (0xF0 + n / 262144 - 0xF0) + n / 4096 % 64) + n / 64 % 64) +
      n % 64 = n := by omega
  rw [decodeUtf8From.eq_def]
  simp only [ofNat_lt_iff hbyte, UInt8.reduceToNat]
  rw [if_neg (show ¬ 0xF0 + n / 262144 < 0x80 by omega),
    if_neg (show ¬ 0xF0 + n / 262144 < 0xC2 by omega),
    if_neg (show ¬ 0xF0 + n / 262144 < 0xE0 by omega),
    if_neg (show ¬ 0xF0 + n / 262144 < 0xF0 by omega),
    if_pos (show 0xF0 + n / 262144 < 0xF5 by omega), if_pos (isSecondOfFour_ofNat hle hlt),
    if_pos (isTail_ofNat _), if_pos (isTail_ofNat n), pushTail_ofNat, pushTail_ofNat,
    pushTail_ofNat, UInt8.toNat_ofNat_of_lt' hbyte, hvalue]

/-- A character in front of other bytes is read as that character. -/
lemma decodeUtf8From_encodeChar (position : ℕ) (c : Char) :
    ∃ next, decodeUtf8From position (encodeChar c ++ rest) =
      (decodeUtf8From next rest).map (c :: ·) := by
  have hvalid : c.toNat < 0xD800 ∨ 0xDFFF < c.toNat ∧ c.toNat < 0x110000 := c.valid
  have hself : Char.ofNat c.toNat = c := Char.ofNat_toNat c
  rw [encodeChar]
  split_ifs with hone htwo hthree
  · exact ⟨position + 1, by rw [List.singleton_append, decodeUtf8From_one rest hone, hself]⟩
  · refine ⟨position + 2, ?_⟩
    rw [List.cons_append, List.singleton_append, decodeUtf8From_two rest (by omega) htwo, hself]
  · refine ⟨position + 3, ?_⟩
    rw [List.cons_append, List.cons_append, List.singleton_append,
      decodeUtf8From_three rest (by omega) hthree (hvalid.imp_right And.left), hself]
  · refine ⟨position + 4, ?_⟩
    rw [List.cons_append, List.cons_append, List.cons_append, List.singleton_append,
      decodeUtf8From_four rest (by omega) (by omega), hself]

end

/-! ### Texts -/

/-- A text is read from what was written of it, wherever it stands. -/
lemma decodeUtf8From_encodeUtf8 (position : ℕ) (text : List Char) :
    decodeUtf8From position (encodeUtf8 text) = .ok text := by
  induction text generalizing position with
  | nil => rw [encodeUtf8_nil, decodeUtf8From]
  | cons c text ih =>
      obtain ⟨next, hnext⟩ := decodeUtf8From_encodeChar (encodeUtf8 text) position c
      have hcons : encodeUtf8 (c :: text) = encodeChar c ++ encodeUtf8 text := List.flatMap_cons
      rw [hcons, hnext, ih]
      rfl

/-- A text is read from what was written of it. -/
lemma decodeUtf8_encodeUtf8 (text : List Char) : decodeUtf8 (encodeUtf8 text) = .ok text :=
  decodeUtf8From_encodeUtf8 0 text

end ShaderPreprocessor.Text

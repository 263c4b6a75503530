/-
Compiled modules as words, and words as bytes again.

* `Processed.bytesOf`, `Processed.pack`: a number in a given count of bytes, the first counting
  least, and words packed into four bytes each;
* `Processed.pack_wordsOf`, `Processed.wordsOf_pack`: reading and packing undo each other, as long
  as no bytes are left over and no word is too large;
* `Processed.head?_wordsOf_eq_magic_iff`, `Processed.words_eq`: where the magic number stands, and
  what is said of bytes that are no module;
* `Processed.words_eq_ok_iff_pack`: which bytes come to words, and that nothing is lost.
-/
import Mathlib.Tactic
import ShaderPreprocessor.Shader

namespace ShaderPreprocessor.Processed

/-! ### Numbers as bytes -/

/-- A number in a count of bytes, the first counting least. What does not fit is dropped. -/
def bytesOf : ℕ → ℕ → List UInt8
  | 0, _ => []
  | count + 1, n => UInt8.ofNat n :: bytesOf count (n / 256)

/-- Words in four bytes each. -/
def pack (ws : List ℕ) : List UInt8 := ws.flatMap (bytesOf 4)

lemma length_bytesOf (count n : ℕ) : (bytesOf count n).length = count := by
  induction count generalizing n with
  | zero => rfl
  | succ count ih => rw [bytesOf, List.length_cons, ih]

lemma pack_cons (w : ℕ) (ws : List ℕ) : pack (w :: ws) = bytesOf 4 w ++ pack ws :=
  List.flatMap_cons

/-- Every word takes four bytes. -/
lemma length_pack (ws : List ℕ) : (pack ws).length = 4 * ws.length := by
  induction ws with
  | nil => rfl
  | cons w ws ih =>
      rw [pack_cons, List.length_append, length_bytesOf, ih, List.length_cons]
      ring

/-- The least byte of a number and the rest are found again. -/
lemma bytesOf_add (count : ℕ) (b : UInt8) (n : ℕ) :
    bytesOf (count + 1) (b.toNat + 256 * n) = b :: bytesOf count n := by
  have hlt : b.toNat < 256 := b.toNat_lt
  have hbyte : UInt8.ofNat (b.toNat + 256 * n) = b := by
    apply UInt8.toNat_inj.1
    rw [UInt8.toNat_ofNat']
    omega
  have hrest : (b.toNat + 256 * n) / 256 = n := by omega
  rw [bytesOf, hbyte, hrest]

/-- The bytes of a word are found again. -/
lemma bytesOf_word (a b c d : UInt8) : bytesOf 4 (word a b c d) = [a, b, c, d] := by
  have hlast : bytesOf 1 d.toNat = [d] := bytesOf_add 0 d 0
  rw [word, bytesOf_add, bytesOf_add, bytesOf_add, hlast]

/-- A word fits into thirty-two bits. -/
lemma word_lt (a b c d : UInt8) : word a b c d < 2 ^ 32 := by
  have ha : a.toNat < 256 := a.toNat_lt
  have hb : b.toNat < 256 := b.toNat_lt
  have hc : c.toNat < 256 := c.toNat_lt
  have hd : d.toNat < 256 := d.toNat_lt
  rw [word]
  omega

/-- A number that fits into a word is the word of its bytes. -/
lemma exists_bytesOf_eq {w : ℕ} (hw : w < 2 ^ 32) :
    ∃ a b c d, bytesOf 4 w = [a, b, c, d] ∧ word a b c d = w := by
  refine ⟨_, _, _, _, rfl, ?_⟩
  simp only [word, UInt8.toNat_ofNat']
  omega

/-! ### Bytes as words -/

/-- Bytes that do not begin with a word are fewer than four. -/
lemma length_lt_of_short {data : List UInt8}
    (h : ∀ a b c d rest, data = a :: b :: c :: d :: rest → False) : data.length < 4 := by
  match data, h with
  | [], _ | [_], _ | [_, _], _ | [_, _, _], _ => simp
  | a :: b :: c :: d :: rest, h => exact absurd rfl (h a b c d rest)

/-- All words fit. -/
lemma lt_of_mem_wordsOf {data : List UInt8} : ∀ w ∈ wordsOf data, w < 2 ^ 32 := by
  fun_induction wordsOf data with
  | case1 a b c d data ih => exact List.forall_mem_cons.2 ⟨word_lt a b c d, ih⟩
  | case2 => exact List.forall_mem_nil _

/-- Bytes that are read as words are packed again, if none are left over. -/
lemma pack_wordsOf {data : List UInt8} (h : 4 ∣ data.length) : pack (wordsOf data) = data := by
  fun_induction wordsOf data with
  | case1 a b c d data ih =>
      have hrest : 4 ∣ data.length := by
        simp only [List.length_cons] at h
        omega
      rw [pack_cons, bytesOf_word, ih hrest]
      rfl
  | case2 data hshort =>
      have hlt := length_lt_of_short hshort
      have hnil : data = [] := List.length_eq_zero_iff.1 (by omega)
      rw [hnil]
      rfl

/-- A word that fits is read before what follows its bytes. -/
lemma wordsOf_bytesOf_append {w : ℕ} (hw : w < 2 ^ 32) (data : List UInt8) :
    wordsOf (bytesOf 4 w ++ data) = w :: wordsOf data := by
  obtain ⟨a, b, c, d, hbytes, hword⟩ := exists_bytesOf_eq hw
  rw [hbytes, List.cons_append, List.cons_append, List.cons_append, List.cons_append,
    List.nil_append, wordsOf, hword]

/-- Words that fit are read again when they are packed. -/
lemma wordsOf_pack {ws : List ℕ} (h : ∀ w ∈ ws, w < 2 ^ 32) : wordsOf (pack ws) = ws := by
  induction ws with
  | nil => rfl
  | cons w ws ih =>
      obtain ⟨hw, hws⟩ := List.forall_mem_cons.1 h
      rw [pack_cons, wordsOf_bytesOf_append hw, ih hws]

/-- The first word is the one whose bytes come first. -/
lemma head?_wordsOf_eq_some_iff {data : List UInt8} {w : ℕ} :
    (wordsOf data).head? = some w ↔ w < 2 ^ 32 ∧ bytesOf 4 w <+: data := by
  constructor
  · intro h
    unfold wordsOf at h
    split at h
    · next a b c d rest =>
        cases h
        rw [bytesOf_word]
        exact ⟨word_lt a b c d, rest, rfl⟩
    · cases h
  · rintro ⟨hw, rest, rfl⟩
    rw [wordsOf_bytesOf_append hw, List.head?_cons]

/-! ### Modules -/

/-- The first word is the magic number exactly if its bytes come first. -/
lemma head?_wordsOf_eq_magic_iff {data : List UInt8} :
    (wordsOf data).head? = some magicNumber ↔ [0x03, 0x02, 0x23, 0x07] <+: data := by
  have hbytes : bytesOf 4 magicNumber = [0x03, 0x02, 0x23, 0x07] := by decide
  rw [head?_wordsOf_eq_some_iff, hbytes]
  exact and_iff_right (by decide)

/-- Bytes left over are reported before anything else is looked at, and then a wrong or missing
first word. -/
lemma words_eq (data : List UInt8) :
    words data =
      if 4 ∣ data.length then
        if [0x03, 0x02, 0x23, 0x07] <+: data then .ok (wordsOf data) else .error .magic
      else .error (.length data.length) := by
  simp only [words, head?_wordsOf_eq_magic_iff, Nat.dvd_iff_mod_eq_zero, ne_eq, ite_not]

/-- Bytes come to words exactly if these fit, the magic number is the first of them, and the bytes
are what they are packed into. -/
lemma words_eq_ok_iff {data : List UInt8} {ws : List ℕ} :
    words data = .ok ws ↔
      pack ws = data ∧ ws.head? = some magicNumber ∧ ∀ w ∈ ws, w < 2 ^ 32 := by
  rw [words_eq]
  constructor
  · intro hok
    split_ifs at hok with hlength hmagic
    cases hok
    exact ⟨pack_wordsOf hlength, head?_wordsOf_eq_magic_iff.2 hmagic, lt_of_mem_wordsOf⟩
  · rintro ⟨rfl, hhead, hfit⟩
    have hmagic : [0x03, 0x02, 0x23, 0x07] <+: pack ws := by
      rwa [← head?_wordsOf_eq_magic_iff, wordsOf_pack hfit]
    rw [if_pos ⟨ws.length, length_pack ws⟩, if_pos hmagic, wordsOf_pack hfit]

/-- **Words are bytes read without loss.** Bytes come to words exactly if their number is a positive
multiple of four and they start with the bytes of the magic number. If not, their number is reported
if it is no multiple of four, and the missing magic number if it is one. There is a word for every
four bytes, each of them fits and the first is the magic number, and the words packed again are the
bytes. All words that fit come back from their bytes if the first of them is the magic number. -/
theorem words_eq_ok_iff_pack :
    (∀ data, (∃ ws, words data = .ok ws) ↔
      (0 < data.length ∧ 4 ∣ data.length) ∧ [0x03, 0x02, 0x23, 0x07] <+: data) ∧
    (∀ data e, words data = .error e ↔
      ¬ 4 ∣ data.length ∧ e = .length data.length ∨
        4 ∣ data.length ∧ ¬ [0x03, 0x02, 0x23, 0x07] <+: data ∧ e = .magic) ∧
    (∀ data ws, words data = .ok ws →
      ws.length = data.length / 4 ∧ (∀ w ∈ ws, w < 2 ^ 32) ∧ ws.head? = some 0x07230203 ∧
        pack ws = data) ∧
    ∀ ws, (∀ w ∈ ws, w < 2 ^ 32) → ws.head? = some 0x07230203 → words (pack ws) = .ok ws := by
  refine ⟨fun data => ?_, fun data e => ?_, fun data ws hok => ?_, fun ws hfit hhead => ?_⟩
  · have hpos : [0x03, 0x02, 0x23, 0x07] <+: data → 0 < data.length := fun h =>
      Nat.lt_of_lt_of_le (by decide) h.length_le
    rw [words_eq]
    split_ifs with hlength hmagic
    · simp [hlength, hmagic, hpos hmagic]
    · simp [hmagic]
    · simp [hlength]
  · rw [words_eq]
    split_ifs with hlength hmagic
    · simp [hlength, hmagic]
    · simp [hlength, hmagic, eq_comm]
    · simp [hlength, eq_comm]
  · obtain ⟨hpack, hhead, hfit⟩ := words_eq_ok_iff.1 hok
    have hlength := length_pack ws
    rw [hpack] at hlength
    exact ⟨by omega, hfit, hhead, hpack⟩
  · exact words_eq_ok_iff.2 ⟨rfl, hhead, hfit⟩

/-- A header of three words is read off its twelve bytes, which it is packed into again; without its
last byte there is one to be reported, and with the bytes of a word in the wrong order there is no
magic number. -/
theorem words_of_header :
    words [0x03, 0x02, 0x23, 0x07, 0x00, 0x00, 0x01, 0x00, 0x07, 0x00, 0x00, 0x00] =
      .ok [0x07230203, 0x00010000, 7] ∧
    words [0x03, 0x02, 0x23, 0x07, 0x00, 0x00, 0x01] = .error (.length 7) ∧
    words [0x07, 0x23, 0x02, 0x03] = .error .magic ∧ words [] = .error .magic := by
  obtain ⟨-, herror, -, hback⟩ := words_eq_ok_iff_pack
  refine ⟨?_, (herror _ _).2 ?_, (herror _ _).2 ?_, (herror _ _).2 ?_⟩
  · exact hback [0x07230203, 0x00010000, 7] (by decide) rfl
  · exact .inl ⟨by decide, rfl⟩
  · exact .inr ⟨by decide, by decide, rfl⟩
  · exact .inr ⟨by decide, by decide, rfl⟩

end ShaderPreprocessor.Processed

/-
Blank characters: the white space of Unicode and the four separators of ASCII. Blanks may stand
between the parts of a directive, and the line feed is one of them.

* `isBlank`: the class;
* `trimStart`, `trimEnd`, `trim`: a text without the blanks at its ends;
* `head_trimStart`: a trimmed text does not start with a blank;
* `trimStart_append`: blanks in front make no difference.
-/
import ShaderPreprocessor.Text.CodeRanges

namespace ShaderPreprocessor.Text

/-- The code points of the blanks. -/
def blankRanges : CodeRanges :=
  [(0x9, 0xD), (0x1C, 0x20), (0x85, 0x85), (0xA0, 0xA0), (0x1680, 0x1680), (0x2000, 0x200A),
   (0x2028, 0x2029), (0x202F, 0x202F), (0x205F, 0x205F), (0x3000, 0x3000)]

/-- Whether a character is blank. -/
def isBlank (c : Char) : Bool := blankRanges.covers c.toNat

/-- A text without the blanks at its start. -/
def trimStart (text : List Char) : List Char := text.dropWhile isBlank

/-- A text without the blanks at its end. -/
def trimEnd (text : List Char) : List Char := (text.reverse.dropWhile isBlank).reverse

/-- A text without the blanks at its two ends. -/
def trim (text : List Char) : List Char := trimEnd (trimStart text)

@[simp] theorem trimStart_nil : trimStart [] = [] := rfl

@[simp] theorem trimEnd_nil : trimEnd [] = [] := rfl

@[simp] theorem trim_nil : trim [] = [] := rfl

/-- A blank in front is dropped, and any other character stays with all that follows. -/
theorem trimStart_cons (c : Char) (text : List Char) :
    trimStart (c :: text) = if isBlank c then trimStart text else c :: text := by
  simp [trimStart, List.dropWhile_cons]

/-- A trimmed text does not start with a blank. -/
theorem head_trimStart {text rest : List Char} {c : Char} (h : trimStart text = c :: rest) :
    isBlank c = false := by
  induction text with
  | nil => simp at h
  | cons d text ih =>
    rw [trimStart_cons] at h
    split at h
    · exact ih h
    · next hd =>
      cases h
      simpa using hd

/-- Blanks in front of a text make no difference to what trimming leaves. -/
theorem trimStart_append {blanks : List Char} (h : ∀ c ∈ blanks, isBlank c = true)
    (text : List Char) : trimStart (blanks ++ text) = trimStart text := by
  induction blanks with
  | nil => rfl
  | cons c blanks ih =>
    rw [List.cons_append, trimStart_cons, if_pos (h c (by simp))]
    exact ih fun d hd => h d (by simp [hd])

end ShaderPreprocessor.Text

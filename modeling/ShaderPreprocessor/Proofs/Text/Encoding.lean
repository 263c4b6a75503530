/-
The names of encodings.

* `nameWords_intercalate`: the words that a name is put together from are found in it again, so that
  a name is looked up as it is looked up once more (`normalName_normalName`);
* `Encoding.eq_of_isNamed`: no two encodings are looked up under one name;
* `Encoding.ofName?_eq_some_iff`: so an encoding is found under each of its names, whatever stands
  between their words and in letters of either case (`Encoding.ofName?_normalName`).
-/
import Mathlib
import ShaderPreprocessor.Proofs.Text.Splits
import ShaderPreprocessor.Text.Encoding

namespace ShaderPreprocessor.Text

/-! ### Words -/

/-- Small letters count as much as the letters that they stand for. -/
lemma isNameChar_toLower (c : Char) : isNameChar c.toLower = isNameChar c := by
  cases h : c.isUpper with
  | false => rw [Char.toLower_eq_of_not_isUpper (by simp [h])]
  | true =>
      have halpha : c.isAlpha = true := by simp [Char.isAlpha, h]
      simp [isNameChar, Char.isAlphanum, halpha]

/-- In a word there is something, and all of it counts. -/
lemma ne_nil_of_mem_nameWords {name word : List Char} (h : word ∈ nameWords name) :
    word ≠ [] ∧ ∀ c ∈ word, isNameChar c = true := by
  obtain ⟨hmem, hne⟩ := List.mem_filter.1 h
  refine ⟨of_decide_eq_true hne, fun c hc => ?_⟩
  simpa using eq_false_of_mem_splitOnP word hmem c hc

/-- The words that a name is put together from are its words. -/
lemma nameWords_intercalate {words : List (List Char)}
    (h : ∀ word ∈ words, word ≠ [] ∧ ∀ c ∈ word, isNameChar c = true) :
    nameWords (['_'].intercalate words) = words := by
  induction words with
  | nil => rfl
  | cons word words ih =>
      obtain ⟨⟨hne, hword⟩, hwords⟩ := List.forall_mem_cons.1 h
      have hsplit : ∀ c ∈ word, (!isNameChar c) = false := fun c hc => by rw [hword c hc]; rfl
      by_cases hlast : words = []
      · subst hlast
        rw [List.intercalate_singleton, nameWords, List.splitOnP_eq_singleton hsplit]
        simp [hne]
      · rw [List.intercalate_cons_of_ne_nil hlast, List.append_assoc, List.singleton_append,
          nameWords, List.splitOnP_append_cons_of_forall_mem hsplit _ (by decide),
          List.filter_cons_of_pos (by simpa using hne)]
        exact congrArg (word :: ·) (ih hwords)

/-- A name that is looked up is looked up as it is. -/
theorem normalName_normalName (name : String) : normalName (normalName name) = normalName name := by
  have hwords : ∀ word ∈ (nameWords name.toList).map (·.map Char.toLower),
      word ≠ [] ∧ ∀ c ∈ word, isNameChar c = true := by
    intro word hword
    obtain ⟨word', hword', rfl⟩ := List.mem_map.1 hword
    obtain ⟨hne, hcount⟩ := ne_nil_of_mem_nameWords hword'
    refine ⟨by simpa using hne, fun c hc => ?_⟩
    obtain ⟨c', hc', rfl⟩ := List.mem_map.1 hc
    rw [isNameChar_toLower, hcount c' hc']
  rw [normalName, normalName, String.toList_ofList, nameWords_intercalate hwords, List.map_map]
  congr 2
  refine List.map_congr_left fun word _ => ?_
  simp [Function.comp_def, Char.toLower_toLower_eq_toLower]

namespace Encoding

variable {encoding encoding' : Encoding} {name : String}

/-! ### The table of names -/

lemma mem_all (encoding : Encoding) : encoding ∈ all := by
  cases encoding <;> decide

/-- No two encodings are looked up under one name. -/
lemma eq_of_isNamed (h : encoding.isNamed name = true) (h' : encoding'.isNamed name = true) :
    encoding = encoding' := by
  have hlisted : ∀ e ∈ all, ∀ listed ∈ e.properName :: e.aliases, ∀ e' ∈ all,
      e'.isNamed listed = true → e = e' := by
    decide +kernel
  have halias : ∀ e ∈ all, ∀ undotted ∈ e.aliases, ∀ e' ∈ all, undotted ∈ e'.aliases → e = e' := by
    decide +kernel
  have hcases : ∀ {e : Encoding}, e.isNamed name = true → name ∈ e.properName :: e.aliases ∨
      String.ofList (name.toList.map fun c => if c = '.' then '_' else c) ∈ e.aliases := by
    intro e he
    simpa [isNamed] using he
  rcases hcases h with hmem | hundotted
  · exact hlisted _ encoding.mem_all name hmem _ encoding'.mem_all h'
  · rcases hcases h' with hmem' | hundotted'
    · exact (hlisted _ encoding'.mem_all name hmem' _ encoding.mem_all h).symm
    · exact halias _ encoding.mem_all _ hundotted _ encoding'.mem_all hundotted'

/-- An encoding is found exactly under the names that it is looked up under. -/
theorem ofName?_eq_some_iff :
    ofName? name = some encoding ↔ encoding.isNamed (normalName name) = true := by
  have hfound : ∀ {found}, ofName? name = some found →
      found.isNamed (normalName name) = true := fun {found} h => by
    simpa using List.find?_some h
  constructor
  · exact hfound
  · intro h
    cases hname : ofName? name with
    | none =>
        have hnone := List.find?_eq_none.1 hname encoding encoding.mem_all
        exact absurd h hnone
    | some found => rw [eq_of_isNamed (hfound hname) h]

/-- It makes no difference to an encoding whether its name is given as it is looked up. -/
theorem ofName?_normalName (name : String) : ofName? (normalName name) = ofName? name := by
  rw [ofName?, ofName?, normalName_normalName]

example : ofName? "UTF 8" = some utf8 := by decide +kernel

example : ofName? "ANSI_X3.4-1968" = some ascii := by decide +kernel

example : ofName? "cp1252" = none := by decide +kernel

end Encoding

end ShaderPreprocessor.Text

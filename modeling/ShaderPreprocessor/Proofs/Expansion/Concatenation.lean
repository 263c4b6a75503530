/-
One text behind another.

* `Library.splice`: what a reference stands for in a text that is preprocessed, and
  `preprocess_text_outcome`: such a text comes to what its lines do;
* `Library.Unfinished`: a text all lines of which are passed and leave a block open. It fails at its
  end and at no line, so that another text behind it may close the block;
* `preprocess_append`: if the first text succeeds and turns itself over an even number of times, the
  second one goes on as if it stood alone; if the first one fails at a line, nothing behind it is
  read.
-/
import ShaderPreprocessor.Proofs.Expansion.Agreement
import ShaderPreprocessor.Proofs.Expansion.Passage
import ShaderPreprocessor.Proofs.Text.EndedLines

namespace ShaderPreprocessor

open Text

/-! ### The lines of a preprocessed text -/

namespace Library

/-- What a reference stands for in text of a dialect that is preprocessed. -/
def splice (library : Library) (defs : List String) (dialect : Dialect) :
    ImportRef → Expanding (List Char) :=
  spliceRef library dialect (library.preprocess defs)

/-- All lines of a text are passed, and after the last one a block is open. -/
def Unfinished (library : Library) (defs : List String) (dialect : Dialect) (content : String) :
    Prop :=
  ∃ passed, (passLines (library.splice defs dialect) defs .root
    (lines content.toList)).outcome = .ok passed ∧ passed.2.outer ≠ []

end Library

section

variable {library : Library} {defs : List String} {dialect : Dialect} {content : String}
  {importPath : Option ImportRef}

/-- A text comes to what its lines do. One level more than the bound, at which the imports of the
lines have the bound for themselves, makes no difference. -/
lemma preprocess_text_outcome :
    (library.preprocess defs ⟨.text dialect content, importPath⟩).outcome =
      ((expandLines (library.splice defs dialect) defs .root (lines content.toList)).map
        fun text => Processed.text dialect (String.ofList text)).outcome := by
  rw [← expand_outcome_eq_preprocess (Nat.le_succ library.depthBound), expand_text rfl]
  rfl

lemma preprocess_text_outcome_eq_ok_iff {result : Processed} :
    (library.preprocess defs ⟨.text dialect content, importPath⟩).outcome = .ok result ↔
      ∃ text, (expandLines (library.splice defs dialect) defs .root
        (lines content.toList)).outcome = .ok text ∧
          .text dialect (String.ofList text) = result := by
  rw [preprocess_text_outcome]
  exact Traced.map_outcome_eq_ok_iff

lemma preprocess_text_outcome_eq_error_iff {stop : Stop} :
    (library.preprocess defs ⟨.text dialect content, importPath⟩).outcome = .error stop ↔
      (expandLines (library.splice defs dialect) defs .root
        (lines content.toList)).outcome = .error stop := by
  rw [preprocess_text_outcome]
  exact Traced.map_outcome_eq_error_iff

/-- An unfinished text fails for want of `#endif` lines. -/
lemma Library.Unfinished.outcome (h : library.Unfinished defs dialect content) :
    (library.preprocess defs ⟨.text dialect content, importPath⟩).outcome =
      .error (.fault .notEnoughEndifs) := by
  obtain ⟨passed, hpassed, hopen⟩ := h
  rw [preprocess_text_outcome_eq_error_iff, expandLines_eq_passLines,
    Traced.bind_outcome_of_ok hpassed, if_neg hopen]
  rfl

/-- A text that fails and is not unfinished fails at one of its lines. -/
lemma passLines_eq_error {stop : Stop} (hfinished : ¬ library.Unfinished defs dialect content)
    (h : (library.preprocess defs ⟨.text dialect content, importPath⟩).outcome = .error stop) :
    (passLines (library.splice defs dialect) defs .root
      (lines content.toList)).outcome = .error stop := by
  rw [preprocess_text_outcome_eq_error_iff, expandLines_eq_passLines] at h
  obtain hline | ⟨passed, hpassed, hend⟩ := Traced.bind_outcome_eq_error_iff.1 h
  · exact hline
  · split at hend
    · cases hend
    · next hopen => exact absurd ⟨passed, hpassed, hopen⟩ hfinished

/-- A text that succeeds passes all its lines. It ends outside all blocks, and if it is turned over
an even number of times, as it began. -/
lemma passLines_eq_ok {result : Processed}
    (h : (library.preprocess defs ⟨.text dialect content, importPath⟩).outcome = .ok result)
    (heven : Even (elses (lines content.toList))) :
    ∃ text, result = .text dialect (String.ofList text) ∧
      (passLines (library.splice defs dialect) defs .root
        (lines content.toList)).outcome = .ok (text, .root) := by
  obtain ⟨text, htext, rfl⟩ := preprocess_text_outcome_eq_ok_iff.1 h
  rw [expandLines_eq_passLines] at htext
  obtain ⟨⟨text', scope⟩, hpassed, hend⟩ := Traced.bind_outcome_eq_ok_iff.1 htext
  split at hend
  · next houter =>
      cases hend
      obtain rfl : scope = .root := (Opened.nil.pass hpassed).eq_root houter heven
      exact ⟨text', rfl, hpassed⟩
  · cases hend

end

/-- **One text behind another.** Let a text be empty or end in a line feed. If it succeeds and has
an even number of `#else` lines outside all blocks, then with another text behind it it succeeds
exactly if that one does alone, with the two results behind one another, and fails exactly as that
one does. If it fails, and not because a block is left open at its own end, then with any text
behind it it fails for the same reason. -/
theorem preprocess_append (library : Library) (defs : List String) (dialect : Dialect)
    {first : String} (hended : Ended first.toList) (second : String)
    (path path' path'' : Option ImportRef) :
    (∀ result, (library.preprocess defs ⟨.text dialect first, path⟩).outcome = .ok result →
      Even (elses (lines first.toList)) →
      ∃ text, result = .text dialect text ∧
        (∀ result', (library.preprocess defs
            ⟨.text dialect (first ++ second), path'⟩).outcome = .ok result' ↔
          ∃ text', (library.preprocess defs ⟨.text dialect second, path''⟩).outcome =
              .ok (.text dialect text') ∧
            result' = .text dialect (text ++ text')) ∧
        ∀ stop, (library.preprocess defs
            ⟨.text dialect (first ++ second), path'⟩).outcome = .error stop ↔
          (library.preprocess defs ⟨.text dialect second, path''⟩).outcome = .error stop) ∧
    (∀ stop, (library.preprocess defs ⟨.text dialect first, path⟩).outcome = .error stop →
      ¬ library.Unfinished defs dialect first →
      (library.preprocess defs ⟨.text dialect (first ++ second), path'⟩).outcome =
        .error stop) ∧
    (library.Unfinished defs dialect first →
      (library.preprocess defs ⟨.text dialect first, path⟩).outcome =
        .error (.fault .notEnoughEndifs)) := by
  have hwhole : expandLines (library.splice defs dialect) defs .root
      (lines (first ++ second).toList) =
        (passLines (library.splice defs dialect) defs .root (lines first.toList)).bind
          fun passed => (expandLines (library.splice defs dialect) defs passed.2
            (lines second.toList)).map (passed.1 ++ ·) := by
    rw [String.toList_append, lines_append hended, expandLines_append]
  refine ⟨fun result hresult heven => ?_, fun stop hstop hfinished => ?_, fun h => h.outcome⟩
  · obtain ⟨text, rfl, hpassed⟩ := passLines_eq_ok hresult heven
    have hrest : (expandLines (library.splice defs dialect) defs .root
        (lines (first ++ second).toList)).outcome =
          ((expandLines (library.splice defs dialect) defs .root
            (lines second.toList)).map (text ++ ·)).outcome := by
      rw [hwhole, Traced.bind_outcome_of_ok hpassed]
    refine ⟨_, rfl, fun result' => ?_, fun stop => ?_⟩
    · simp only [preprocess_text_outcome_eq_ok_iff, hrest, Traced.map_outcome_eq_ok_iff]
      constructor
      · rintro ⟨_, ⟨text', htext', rfl⟩, rfl⟩
        exact ⟨_, ⟨text', htext', rfl⟩, by rw [String.ofList_append]⟩
      · rintro ⟨_, ⟨text', htext', heq⟩, rfl⟩
        cases heq
        exact ⟨_, ⟨text', htext', rfl⟩, by rw [String.ofList_append]⟩
    · rw [preprocess_text_outcome_eq_error_iff, preprocess_text_outcome_eq_error_iff, hrest,
        Traced.map_outcome_eq_error_iff]
  · rw [preprocess_text_outcome_eq_error_iff, hwhole]
    exact Traced.bind_outcome_eq_error_iff.2 (Or.inl (passLines_eq_error hfinished hstop))

/-- A library with a text that leaves a block open. -/
def openBlock : Library where
  shaders := .ofList [(⟨0⟩, ⟨.text .wgsl "#ifdef A", none⟩)]
  imports := .ofList [(.asset "open", ⟨0⟩)]

/-- A text that is turned over and back leaves an `#endif` behind it without a block to close. That
an imported text leaves a block open is no matter of the end of the text that imports it, and the
same `#endif` does not mend it. -/
theorem preprocess_append_endif :
    (openBlock.preprocess [] ⟨.text .wgsl ("a\n#else\nb\n#else\n" ++ "#endif\n"), none⟩).outcome =
      .error (.fault .tooManyEndifs) ∧
    (openBlock.preprocess [] ⟨.text .wgsl ("a\n#else\nb\n#else\n" ++ "c"), none⟩).outcome =
      .ok (.text .wgsl "a\nc\n") ∧
    (openBlock.preprocess [] ⟨.text .wgsl ("#import \"open\"\n" ++ "#endif\n"), none⟩).outcome =
      .error (.fault .notEnoughEndifs) := by
  have hturned : (openBlock.preprocess [] ⟨.text .wgsl "a\n#else\nb\n#else\n", none⟩).outcome =
      .ok (.text .wgsl "a\n") := rfl
  have heven : Even (elses (lines "a\n#else\nb\n#else\n".toList)) := by decide
  have himport : (openBlock.preprocess [] ⟨.text .wgsl "#import \"open\"\n", none⟩).outcome =
      .error (.fault .notEnoughEndifs) := rfl
  have hfinished : ¬ openBlock.Unfinished [] .wgsl "#import \"open\"\n" := by
    rintro ⟨passed, hpassed, -⟩
    cases hpassed
  refine ⟨?_, ?_, ?_⟩
  · obtain ⟨text, heq, -, herror⟩ := (preprocess_append openBlock [] .wgsl (Or.inr (by decide))
      "#endif\n" none none none).1 _ hturned heven
    exact (herror _).2 rfl
  · obtain ⟨text, heq, hok, -⟩ := (preprocess_append openBlock [] .wgsl (Or.inr (by decide))
      "c" none none none).1 _ hturned heven
    cases heq
    exact (hok _).2 ⟨"c\n", rfl, rfl⟩
  · exact (preprocess_append openBlock [] .wgsl (Or.inr (by decide)) "#endif\n" none none none).2.1
      _ himport hfinished

end ShaderPreprocessor

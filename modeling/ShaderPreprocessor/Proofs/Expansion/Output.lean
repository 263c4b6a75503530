/-
What preprocessing leaves is ordinary text.

* `Ordinary`: a text of ended lines that state no directive;
* `expandLines_ordinary`, `expand_ordinary`: what is expanded comes to ordinary text. Imported text
  begins and ends where lines do, so that it joins no line of the text around it;
* `preprocess_of_ordinary`: ordinary text stands for itself, but for one carriage return at the end
  of each line. A line without it is as ordinary as it was before;
* `preprocess_output`: what was preprocessed is free of directives and stays so.
-/
import ShaderPreprocessor.Proofs.Directive.Extension
import ShaderPreprocessor.Proofs.Expansion.Imports
import ShaderPreprocessor.Proofs.Expansion.Passage
import ShaderPreprocessor.Proofs.Text.EndedLines

namespace ShaderPreprocessor

open Text

/-! ### Ordinary text -/

/-- A line that states no directive, as one of a text. -/
structure OrdinaryLine (line : Line) : Prop where
  /-- It states no directive. -/
  noDirective : Directive.ofLine? line = none
  /-- It is one line. -/
  noNewline : '\n' ∉ line

/-- A text of ended lines that state no directive. -/
def Ordinary (text : List Char) : Prop :=
  ∃ ls, (∀ line ∈ ls, OrdinaryLine line) ∧ text = endLines ls

/-- Without a carriage return at its end an ordinary line is ordinary. -/
lemma OrdinaryLine.dropReturn {line : Line} (h : OrdinaryLine line) :
    OrdinaryLine (dropReturn line) := by
  obtain ⟨more, hmore⟩ := dropReturn_isPrefix line
  have hwhole := h.noDirective
  rw [← hmore] at hwhole
  exact ⟨Directive.ofLine?_eq_none_of_append hwhole,
    fun hmem => h.noNewline ((dropReturn_isPrefix line).subset hmem)⟩

lemma ordinary_nil : Ordinary [] := ⟨[], by simp, rfl⟩

/-- A line with its line feed is ordinary text. -/
lemma OrdinaryLine.ordinary {line : Line} (h : OrdinaryLine line) : Ordinary (line ++ ['\n']) :=
  ⟨[line], by simpa using h, by simp⟩

/-- One ordinary text after another is ordinary. -/
lemma Ordinary.append {text text' : List Char} (h : Ordinary text) (h' : Ordinary text') :
    Ordinary (text ++ text') := by
  obtain ⟨ls, hls, rfl⟩ := h
  obtain ⟨ls', hls', rfl⟩ := h'
  refine ⟨ls ++ ls', fun line hline => ?_, (endLines_append ls ls').symm⟩
  rcases List.mem_append.1 hline with hline | hline
  · exact hls line hline
  · exact hls' line hline

/-! ### What is expanded -/

section

variable {splice : ImportRef → Expanding (List Char)} {defs : List String}

/-- What a line by itself comes to is ordinary if imports are. -/
lemma ownText_ordinary (hsplice : ∀ ref text, (splice ref).outcome = .ok text → Ordinary text)
    {scope : Scope} {line : Line} {text : List Char} (hline : '\n' ∉ line)
    (h : (ownText splice scope line).outcome = .ok text) : Ordinary text := by
  unfold ownText at h
  split at h
  · exact hsplice _ text h
  · cases h
    exact ordinary_nil
  · next hnone =>
      cases h
      split
      · exact OrdinaryLine.ordinary ⟨hnone, hline⟩
      · exact ordinary_nil

/-- What lines come to is ordinary if imports are. -/
lemma expandLines_ordinary (hsplice : ∀ ref text, (splice ref).outcome = .ok text → Ordinary text)
    {scope : Scope} {ls : List Line} {text : List Char} (hls : ∀ line ∈ ls, '\n' ∉ line)
    (h : (expandLines splice defs scope ls).outcome = .ok text) : Ordinary text := by
  induction ls generalizing scope text with
  | nil =>
      rw [expandLines] at h
      split at h
      · cases h
        exact ordinary_nil
      · cases h
  | cons line ls ih =>
      obtain ⟨hline, hrest⟩ := List.forall_mem_cons.1 hls
      rw [expandLines_cons] at h
      split at h
      · cases h
      · obtain ⟨own, hown, htail⟩ := Traced.bind_outcome_eq_ok_iff.1 h
        obtain ⟨rest, htext, rfl⟩ := Traced.map_outcome_eq_ok_iff.1 htail
        exact (ownText_ordinary hsplice hline hown).append (ih hrest htext)

/-- A shader that comes to text comes to ordinary text. -/
lemma expand_ordinary {library : Library} {depth : ℕ} {shader : Shader} {dialect : Dialect}
    {text : String} (h : (expand library defs depth shader).outcome = .ok (.text dialect text)) :
    Ordinary text.toList := by
  induction depth generalizing shader dialect text with
  | zero => cases h
  | succ depth ih =>
      rw [expand] at h
      split at h
      · split at h <;> cases h
      · next other content hsource =>
          obtain ⟨text', htext', heq⟩ := Traced.map_outcome_eq_ok_iff.1 h
          cases heq
          rw [String.toList_ofList]
          refine expandLines_ordinary (fun ref part hpart => ?_)
            (fun line => newline_not_mem_of_mem_lines) htext'
          obtain ⟨-, imported, other', content', -, himported, -, rfl⟩ :=
            spliceRef_outcome_eq_ok_iff.1 hpart
          exact ih himported

/-- Ordinary lines that are kept stand for themselves. -/
lemma passLines_of_ordinary {scope : Scope} {ls : List Line} (hactive : scope.active = true)
    (h : ∀ line ∈ ls, OrdinaryLine line) :
    passLines splice defs scope ls = .pure (endLines ls, scope) := by
  induction ls with
  | nil => rfl
  | cons line ls ih =>
      obtain ⟨hline, hrest⟩ := List.forall_mem_cons.1 h
      have hnext : scope.next? defs line = some scope := by rw [Scope.next?, hline.noDirective]
      have hown : ownText splice scope line = .pure (line ++ ['\n']) := by
        rw [ownText, hline.noDirective]
        exact congrArg Traced.pure (if_pos hactive)
      rw [passLines, hnext]
      dsimp only
      rw [hown, ih hrest, Traced.pure_bind, endLines_cons, List.append_cons line '\n' (endLines ls)]
      rfl

/-- Ordinary lines stand for themselves. -/
lemma expandLines_of_ordinary {ls : List Line} (h : ∀ line ∈ ls, OrdinaryLine line) :
    expandLines splice defs .root ls = .pure (endLines ls) := by
  rw [expandLines_eq_passLines, passLines_of_ordinary rfl h]
  rfl

end

/-- A text of ordinary lines stands for itself, whatever is defined and stored, with one carriage
return less at the end of each line. -/
lemma preprocess_of_ordinary (library : Library) (defs : List String) (dialect : Dialect)
    (importPath : Option ImportRef) {ls : List Line} (h : ∀ line ∈ ls, OrdinaryLine line) :
    library.preprocess defs ⟨.text dialect (String.ofList (endLines ls)), importPath⟩ =
      .pure (.text dialect (String.ofList (dropReturns (endLines ls)))) := by
  have hnewline : ∀ line ∈ ls, '\n' ∉ line := fun line hline => (h line hline).noNewline
  have hreturn : ∀ line ∈ ls.map dropReturn, OrdinaryLine line := by
    intro line hline
    obtain ⟨line', hline', rfl⟩ := List.mem_map.1 hline
    exact (h line' hline').dropReturn
  rw [Library.preprocess, Library.depthBound, expand_text rfl, String.toList_ofList,
    lines_endLines hnewline, expandLines_of_ordinary hreturn, dropReturns_endLines hnewline]
  rfl

/-- **What was preprocessed.** A text that can be preprocessed comes to text of its dialect that is
empty or ends in a line feed. No line of it states a directive, it imports nothing, and preprocessed
again, whatever is defined and stored, it stays the same but for one carriage return at the end of
each line that ends in one. -/
theorem preprocess_output {library : Library} {defs : List String} {dialect : Dialect}
    {content : String} {importPath : Option ImportRef} {result : Processed}
    (h : (library.preprocess defs ⟨.text dialect content, importPath⟩).outcome = .ok result) :
    ∃ text, result = .text dialect text ∧
      (text.toList = [] ∨ text.toList.getLast? = some '\n') ∧
      (∀ line ∈ lines text.toList, Directive.ofLine? line = none) ∧
      (∀ path, (⟨.text dialect text, path⟩ : Shader).imports = []) ∧
      (∀ (library' : Library) (defs' : List String) (path : Option ImportRef),
        (library'.preprocess defs' ⟨.text dialect text, path⟩).outcome =
          .ok (.text dialect (String.ofList (dropReturns text.toList)))) ∧
      ((∀ piece ∈ pieces text.toList, piece.getLast? ≠ some '\r') →
        String.ofList (dropReturns text.toList) = text) := by
  obtain ⟨text, -, rfl⟩ := (expand_text_outcome_eq_ok_iff rfl).1 h
  obtain ⟨ls, hls, htext⟩ := expand_ordinary h
  rw [String.toList_ofList] at htext
  subst htext
  have hnewline : ∀ line ∈ ls, '\n' ∉ line := fun line hline => (hls line hline).noNewline
  have hlines : ∀ line ∈ lines (endLines ls), Directive.ofLine? line = none := by
    rw [lines_endLines hnewline]
    intro line hline
    obtain ⟨line', hline', rfl⟩ := List.mem_map.1 hline
    exact (hls line' hline').dropReturn.noDirective
  refine ⟨_, rfl, ?_, ?_, fun path => ?_, fun library' defs' path => ?_, fun hends => ?_⟩
  · rw [String.toList_ofList]
    exact endLines_eq_nil_or ls
  · rw [String.toList_ofList]
    exact hlines
  · refine List.eq_nil_iff_forall_not_mem.2 fun ref href => ?_
    obtain ⟨line, hline, hdirective⟩ := mem_importRefs_iff.1 href
    rw [String.toList_ofList] at hline
    rw [hlines line hline] at hdirective
    cases hdirective
  · rw [String.toList_ofList, preprocess_of_ordinary library' defs' dialect path hls]
    rfl
  · rw [String.toList_ofList] at hends ⊢
    rw [pieces_endLines hnewline] at hends
    rw [dropReturns_endLines_eq_self hnewline hends]

/-- An imported text between two lines, the last of which ends in two carriage returns: one is left
by the first run and none by the second. -/
theorem preprocess_output_returns :
    (Library.preprocess ⟨.ofList [(⟨0⟩, ⟨.text .wgsl "z\r", none⟩)],
      .ofList [(.custom "a", ⟨0⟩)]⟩ ["A"]
        ⟨.text .wgsl "#ifndef A\n#import a\nx\n#endif\ny\r\r\n", none⟩).outcome =
          .ok (.text .wgsl "z\ny\r\n") ∧
      ∀ (library' : Library) (defs' : List String),
        (library'.preprocess defs' ⟨.text .wgsl "z\ny\r\n", none⟩).outcome =
          .ok (.text .wgsl "z\ny\n") := by
  have h : (Library.preprocess ⟨.ofList [(⟨0⟩, ⟨.text .wgsl "z\r", none⟩)],
      .ofList [(.custom "a", ⟨0⟩)]⟩ ["A"]
        ⟨.text .wgsl "#ifndef A\n#import a\nx\n#endif\ny\r\r\n", none⟩).outcome =
          .ok (.text .wgsl "z\ny\r\n") := rfl
  obtain ⟨text, htext, -, -, -, hagain, -⟩ := preprocess_output h
  cases htext
  exact ⟨h, fun library' defs' => hagain library' defs' none⟩

end ShaderPreprocessor

/-
An import line that is kept stands for the text that it names, as if that text had been written in
its place.

* `BareImport`: the keyword with nothing but a carriage return behind it. As one of a text such a
  line loses the carriage return, and with it the reference;
* `importRef?_dropReturn`: every other import line names the same without a carriage return at its
  end;
* `Library.ActiveImport`: an import line at a place of a text where lines are kept, and what it
  stands for;
* `preprocess_import_line`: the text with the line, and the text with what it stands for, come to
  the same. The text put in is ordinary, so that it passes through a second time unchanged and
  leaves the scope as it is.
-/
import ShaderPreprocessor.Proofs.Directive.Grammar
import ShaderPreprocessor.Proofs.Expansion.Concatenation
import ShaderPreprocessor.Proofs.Expansion.Output

namespace ShaderPreprocessor

open Text

/-! ### Import lines that end in a carriage return -/

/-- Nothing follows a line in a text without line feeds. -/
lemma Text.LineEnd.eq_nil {more : List Char} (h : LineEnd more) (hfeed : '\n' ∉ more) :
    more = [] := by
  cases more with
  | nil => rfl
  | cons c more => exact absurd (h c rfl ▸ List.mem_cons_self) hfeed

/-- A carriage return at the end of a text belongs to what follows a beginning of it that does not
end in one. -/
lemma Text.exists_of_append_return {front head rest : List Char} {c : Char}
    (h : front ++ ['\r'] = head ++ rest) (hlast : head.getLast? = some c) (hc : c ≠ '\r') :
    ∃ rest', rest = rest' ++ ['\r'] ∧ front = head ++ rest' := by
  rcases List.eq_nil_or_concat rest with rfl | ⟨rest, d, rfl⟩
  · rw [List.append_nil] at h
    rw [← h, List.getLast?_concat] at hlast
    exact absurd (Option.some.inj hlast).symm hc
  · rw [List.concat_eq_append, ← List.append_assoc] at h
    obtain ⟨rfl, hd⟩ := List.append_inj' h rfl
    exact ⟨rest, by rw [List.concat_eq_append, hd], rfl⟩

/-- A tail that is more than a carriage return names the same without one at its end. -/
lemma ImportRef.Tail.of_append_return {tail : List Char} {ref : ImportRef}
    (h : Tail (tail ++ ['\r']) (some ref)) (hfeed : '\n' ∉ tail) (hne : tail ≠ []) :
    Tail tail (some ref) := by
  have hall : '\n' ∉ tail ++ ['\r'] := by simpa using hfeed
  have hend : LineEnd [] := fun c hc => by cases hc
  generalize htext : tail ++ ['\r'] = text at h hall
  cases h with
  | @file blanks path after more hblanks hpath hlast hline hmore =>
      obtain rfl := hmore.eq_nil fun hmem =>
        hall (List.mem_append_right _ (List.mem_append_right _ hmem))
      have hsplit : tail ++ ['\r'] = (blanks ++ '"' :: path ++ ['"']) ++ after := by
        simpa using htext
      obtain ⟨after, rfl, rfl⟩ := exists_of_append_return hsplit List.getLast?_concat (by decide)
      have htail := Tail.file hblanks hpath (fun hmem => hlast (List.mem_append_left _ hmem))
        (fun hmem => hline (by simp at hmem ⊢; tauto)) hend
      simpa using htail
  | @word blanks word after more hblanks hword hfirst hlast hafter hline hnofile hmore =>
      obtain rfl := hmore.eq_nil fun hmem =>
        hall (List.mem_append_right _ (List.mem_append_right _ hmem))
      have hsplit : tail ++ ['\r'] = (blanks ++ word) ++ after := by simpa using htext
      obtain ⟨c, hc⟩ := Option.ne_none_iff_exists'.1 (mt List.getLast?_eq_none_iff.1 hword)
      have hreturn : c ≠ '\r' := by
        -- a word does not end in a blank
        rintro rfl
        exact absurd (hlast _ hc) (by decide)
      have hhead : (blanks ++ word).getLast? = some c := by
        rw [List.getLast?_append_of_ne_nil _ hword, hc]
      obtain ⟨after, rfl, rfl⟩ := exists_of_append_return hsplit hhead hreturn
      have htail := Tail.word hblanks hword hfirst hlast
        (fun d hd => hafter d (List.mem_append_left _ hd))
        (fun hmem => hline (by simp at hmem ⊢; tauto))
        (fun path rest heq => hnofile path (rest ++ ['\r']) (by
          rw [← List.append_assoc, heq]
          simp)) hend
      simpa using htail
  | blank hblanks _ _ =>
      subst htext
      obtain ⟨d, hd⟩ := List.exists_mem_of_ne_nil tail hne
      exact .blank (fun c hc => hblanks c (List.mem_append_left _ hc)) hd
        fun heq => hfeed (heq ▸ hd)

/-- The keyword of an import with a carriage return behind it and nothing else. -/
def BareImport (line : Line) : Prop :=
  ∃ before between, Blanks before ∧ Blanks between ∧
    line = before ++ '#' :: (between ++ ("import".toList ++ ['\r']))

/-- A bare line names nothing once the carriage return is dropped. -/
lemma BareImport.importRef?_dropReturn {line : Line} (h : BareImport line) :
    importRef? (dropReturn line) = none := by
  obtain ⟨before, between, hbefore, hbetween, rfl⟩ := h
  have hsplit : before ++ '#' :: (between ++ ("import".toList ++ ['\r'])) =
      before ++ '#' :: (between ++ ("import".toList ++ [])) ++ ['\r'] := by simp
  rw [hsplit, dropReturn_append_return, importRef?_keyword hbefore hbetween]
  rfl

/-- An import line that is not bare names the same without a carriage return at its end. -/
lemma importRef?_dropReturn {line : Line} {ref : ImportRef} (hline : '\n' ∉ line)
    (href : importRef? line = some ref) (hbare : ¬ BareImport line) :
    importRef? (dropReturn line) = some ref := by
  by_cases hreturn : line.getLast? = some '\r'
  · obtain ⟨front, rfl⟩ := List.getLast?_eq_some_iff.1 hreturn
    obtain ⟨before, between, tail, hbefore, hbetween, heq⟩ := exists_keyword_of_importRef? href
    have hsplit : front ++ ['\r'] =
        (before ++ '#' :: (between ++ "impor".toList) ++ ['t']) ++ tail := by simpa using heq
    obtain ⟨tail, rfl, hfront⟩ := exists_of_append_return hsplit List.getLast?_concat (by decide)
    have hne : tail ≠ [] := by
      rintro rfl
      exact hbare ⟨before, between, hbefore, hbetween, heq⟩
    have hfeed : '\n' ∉ tail := fun hmem => hline (by simp [hfront, hmem])
    obtain ⟨answer, htail⟩ := ImportRef.exists_tail (tail ++ ['\r'])
    rw [heq, importRef?_keyword hbefore hbetween, htail.ofTail?_eq] at href
    subst href
    have hkeyword : front = before ++ '#' :: (between ++ ("import".toList ++ tail)) := by
      simpa using hfront
    rw [dropReturn_append_return, hkeyword, importRef?_keyword hbefore hbetween]
    exact (htail.of_append_return hfeed hne).ofTail?_eq
  · rwa [dropReturn_eq_self hreturn]

/-! ### An import line in a text -/

/-- An import of which the text is known is passed with this text. -/
lemma expandLines_import {splice : ImportRef → Expanding (List Char)} {defs : List String}
    {scope : Scope} {line : Line} {ref : ImportRef} {text : List Char} (ls : List Line)
    (hline : Directive.ofLine? line = some (.splice ref))
    (href : (splice ref).outcome = .ok text) :
    (expandLines splice defs scope (line :: ls)).outcome =
      ((expandLines splice defs scope ls).map (text ++ ·)).outcome := by
  rw [expandLines, hline]
  exact Traced.bind_outcome_of_ok href _

/-- An import line behind the beginning of a text that is passed and leaves lines kept, and the text
that it stands for, in which no line ends in a carriage return. -/
structure Library.ActiveImport (library : Library) (defs : List String) (dialect : Dialect)
    (before line text : String) : Prop where
  /-- The line starts where a line does. -/
  ended : Ended before.toList
  /-- It is one line. -/
  noNewline : '\n' ∉ line.toList
  /-- The lines before it are passed, and lines are kept behind them. -/
  active : ∃ passed, (passLines (library.splice defs dialect) defs .root
    (lines before.toList)).outcome = .ok passed ∧ passed.2.active = true
  /-- It names a shader that comes to the text, in a dialect of the same family. -/
  meaning : ∃ ref handle imported other, importRef? line.toList = some ref ∧
    library.resolve? ref = some (handle, imported) ∧
      (library.preprocess defs imported).outcome = .ok (.text other text) ∧
        dialect.sameFamily other = true
  /-- No line of the text ends in a carriage return. -/
  noReturn : ∀ piece ∈ pieces text.toList, piece.getLast? ≠ some '\r'

namespace Library.ActiveImport

variable {library : Library} {defs : List String} {dialect : Dialect} {before line text : String}

/-- The text consists of ordinary lines and ends where a line does. -/
lemma exists_ordinary (h : library.ActiveImport defs dialect before line text) :
    Ended text.toList ∧ text.toList = endLines (lines text.toList) ∧
      ∀ l ∈ lines text.toList, OrdinaryLine l := by
  obtain ⟨ref, handle, imported, other, -, -, himported, -⟩ := h.meaning
  obtain ⟨ls, hls, htext⟩ := expand_ordinary himported
  have hpieces : pieces text.toList = ls := by
    rw [htext, pieces_endLines fun l hl => (hls l hl).noNewline]
  have hlines : lines text.toList = ls := by
    rw [lines, hpieces, List.map_congr_left fun l hl => dropReturn_eq_self
      (h.noReturn l (hpieces ▸ hl)), List.map_id']
  rw [hlines]
  exact ⟨htext ▸ endLines_eq_nil_or ls, htext, hls⟩

end Library.ActiveImport

/-- **An import line is a substitution.** At a place of a text where lines are kept an import line
other than a bare one may be replaced by the text that it stands for: with whatever behind it, both
texts come to the same result or fail for the same reason, endless nesting included. -/
theorem preprocess_import_line {library : Library} {defs : List String} {dialect : Dialect}
    {before line text : String} (h : library.ActiveImport defs dialect before line text)
    (hbare : ¬ BareImport line.toList) (after : String) (path path' : Option ImportRef) :
    (library.preprocess defs
      ⟨.text dialect (before ++ line ++ "\n" ++ after), path⟩).outcome =
        (library.preprocess defs ⟨.text dialect (before ++ text ++ after), path'⟩).outcome := by
  obtain ⟨passed, hpassed, hactive⟩ := h.active
  obtain ⟨ref, handle, imported, other, href, hresolve, himported, hfamily⟩ := h.meaning
  obtain ⟨hended, htext, hordinary⟩ := h.exists_ordinary
  have hdirective : Directive.ofLine? (dropReturn line.toList) = some (.splice ref) :=
    Directive.ofLine?_eq_splice_iff.2 (importRef?_dropReturn h.noNewline href hbare)
  have hsplice : (library.splice defs dialect ref).outcome = .ok text.toList :=
    spliceRef_outcome_eq_ok_iff.2
      ⟨handle, imported, other, text, hresolve, himported, hfamily, rfl⟩
  have hline : lines (before ++ line ++ "\n" ++ after).toList =
      lines before.toList ++ dropReturn line.toList :: lines after.toList := by
    rw [String.append_assoc, String.append_assoc, String.toList_append, lines_append h.ended,
      String.toList_append, String.toList_append]
    exact congrArg _ (lines_append_newline h.noNewline _)
  have hlines : lines (before ++ text ++ after).toList =
      lines before.toList ++ (lines text.toList ++ lines after.toList) := by
    rw [String.append_assoc, String.toList_append, lines_append h.ended, String.toList_append,
      lines_append hended]
  rw [preprocess_text_outcome, preprocess_text_outcome, hline, hlines, expandLines_append,
    expandLines_append]
  refine Traced.map_outcome_congr _ ?_
  rw [Traced.bind_outcome_of_ok hpassed, Traced.bind_outcome_of_ok hpassed]
  refine Traced.map_outcome_congr _ ?_
  rw [expandLines_import _ hdirective hsplice, expandLines_append,
    passLines_of_ordinary hactive hordinary, Traced.pure_bind, ← htext]

/-- A library with a text that is kept if a name is defined. -/
def keptText : Library where
  shaders := .ofList [(⟨0⟩, ⟨.text (.glsl .vertex) "#ifdef A\nx\n#endif", none⟩)]
  imports := .ofList [(.custom "a", ⟨0⟩)]

/-- In a block that was turned over, with an error behind it that is met either way. -/
theorem preprocess_import_line_in_block :
    (keptText.preprocess ["A"] ⟨.text (.glsl .compute)
      ("#ifndef A\n#else\n" ++ "# import a\r" ++ "\n" ++ "y"), none⟩).outcome =
        (keptText.preprocess ["A"]
          ⟨.text (.glsl .compute) ("#ifndef A\n#else\n" ++ "x\n" ++ "y"), none⟩).outcome ∧
    (keptText.preprocess ["A"]
      ⟨.text (.glsl .compute) ("#ifndef A\n#else\n" ++ "x\n" ++ "y"), none⟩).outcome =
        .error (.fault .notEnoughEndifs) := by
  have h : keptText.ActiveImport ["A"] (.glsl .compute) "#ifndef A\n#else\n" "# import a\r" "x\n" :=
    ⟨Or.inr (by decide), by decide, ⟨_, rfl, rfl⟩,
      ⟨.custom "a", ⟨0⟩, _, .glsl .vertex, by decide, rfl, rfl, rfl⟩, by decide⟩
  have hbare : ¬ BareImport "# import a\r".toList := by
    intro hbare
    have hnone := hbare.importRef?_dropReturn
    cases hnone
  exact ⟨preprocess_import_line h hbare "y" none none, rfl⟩

/-- A library with a text of an empty name. -/
def emptyName : Library where
  shaders := .ofList [(⟨0⟩, ⟨.text .wgsl "x\n", none⟩)]
  imports := .ofList [(.custom "", ⟨0⟩)]

/-- A bare line at such a place is passed as ordinary text, and what it names is not put in. -/
theorem bare_import_line_stays :
    emptyName.ActiveImport [] .wgsl "" "#import\r" "x\n" ∧ BareImport "#import\r".toList ∧
    (emptyName.preprocess [] ⟨.text .wgsl ("" ++ "#import\r" ++ "\n" ++ ""), none⟩).outcome =
      .ok (.text .wgsl "#import\n") ∧
    (emptyName.preprocess [] ⟨.text .wgsl ("" ++ "x\n" ++ ""), none⟩).outcome =
      .ok (.text .wgsl "x\n") :=
  ⟨⟨Or.inl rfl, by decide, ⟨_, rfl, rfl⟩,
      ⟨.custom "", ⟨0⟩, _, .wgsl, by decide, rfl, rfl, rfl⟩, by decide⟩,
    ⟨[], [], by simp [Blanks], by simp [Blanks], rfl⟩, rfl, rfl⟩

end ShaderPreprocessor

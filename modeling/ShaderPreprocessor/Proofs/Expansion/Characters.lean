/-
Which characters come out of an expansion, and what becomes of text that comes out of files.

* `expandLines_forall`, `expand_forall`: every character of an expansion but the line feeds stands
  in a text that goes into it;
* `Ordinary.preprocess`: ordinary text without carriage returns stands for itself;
* `Settings.return_not_mem_of_readShader`: no text that is read from a file holds a carriage return;
* `Settings.textOf_encodeUtf8`: text without carriage returns is read as it was written.
-/
import ShaderPreprocessor.Proofs.Expansion.Agreement
import ShaderPreprocessor.Proofs.Expansion.Output
import ShaderPreprocessor.Proofs.Shader.Reading
import ShaderPreprocessor.Proofs.Text.Utf8

namespace ShaderPreprocessor

open Text

/-! ### Characters of expansions -/

section

variable {P : Char → Prop} {splice : ImportRef → Expanding (List Char)} {defs : List String}

/-- What holds of line feeds, of the characters of lines and of those of imports holds of all that
the lines come to. -/
lemma expandLines_forall (hfeed : P '\n')
    (hsplice : ∀ ref text, (splice ref).outcome = .ok text → ∀ c ∈ text, P c)
    {scope : Scope} {ls : List Line} {text : List Char} (hls : ∀ line ∈ ls, ∀ c ∈ line, P c)
    (h : (expandLines splice defs scope ls).outcome = .ok text) : ∀ c ∈ text, P c := by
  induction ls generalizing scope text with
  | nil =>
      rw [expandLines] at h
      split at h
      · cases h
        simp
      · cases h
  | cons line ls ih =>
      obtain ⟨hline, hrest⟩ := List.forall_mem_cons.1 hls
      rw [expandLines_cons] at h
      split at h
      · cases h
      · obtain ⟨own, hown, htail⟩ := Traced.bind_outcome_eq_ok_iff.1 h
        obtain ⟨rest, htext, rfl⟩ := Traced.map_outcome_eq_ok_iff.1 htail
        refine List.forall_mem_append.2 ⟨?_, ih hrest htext⟩
        unfold ownText at hown
        split at hown
        · exact hsplice _ own hown
        · cases hown
          simp
        · cases hown
          split
          · refine List.forall_mem_append.2 ⟨hline, ?_⟩
            simpa using hfeed
          · simp

/-- What holds of line feeds and of the characters of a text and of all that references lead to
holds of all that the text comes to. -/
lemma expand_forall (hfeed : P '\n') {library : Library}
    (hlibrary : ∀ ref s dialect content, library.shader? ref = some s →
      s.source = .text dialect content → ∀ c ∈ content.toList, P c)
    {depth : ℕ} {shader : Shader} {dialect : Dialect} {text : String}
    (hshader : ∀ dialect content, shader.source = .text dialect content →
      ∀ c ∈ content.toList, P c)
    (h : (expand library defs depth shader).outcome = .ok (.text dialect text)) :
    ∀ c ∈ text.toList, P c := by
  induction depth generalizing shader dialect text with
  | zero => cases h
  | succ depth ih =>
      rw [expand] at h
      split at h
      · split at h <;> cases h
      · next other content hsource =>
          obtain ⟨text', htext', heq⟩ := Traced.map_outcome_eq_ok_iff.1 h
          cases heq
          rw [String.toList_ofList]
          refine expandLines_forall hfeed (fun ref part hpart => ?_)
            (fun line hline c hc => hshader _ _ hsource c (mem_of_mem_lines hline hc)) htext'
          obtain ⟨g, imported, other', content', hresolve, himported, -, rfl⟩ :=
            spliceRef_outcome_eq_ok_iff.1 hpart
          have hfound : library.shader? ref = some imported := by
            rw [Library.shader?, hresolve, Option.map_some]
          exact ih (fun dialect content => hlibrary ref imported dialect content hfound) himported

end

/-! ### Ordinary text -/

section

variable {content : String}

/-- Ordinary text without carriage returns stands for itself, whatever is defined and stored. -/
lemma Ordinary.preprocess (h : Ordinary content.toList) (hreturn : '\r' ∉ content.toList)
    (library : Library) (defs : List String) (dialect : Dialect) (importPath : Option ImportRef) :
    library.preprocess defs ⟨.text dialect content, importPath⟩ =
      .pure (.text dialect content) := by
  obtain ⟨ls, hls, htext⟩ := h
  have hnewline : ∀ line ∈ ls, '\n' ∉ line := fun line hline => (hls line hline).noNewline
  have hends : ∀ line ∈ ls, line.getLast? ≠ some '\r' := by
    intro line hline hlast
    refine hreturn ?_
    rw [htext]
    exact List.mem_flatMap.2 ⟨line, hline, List.mem_append_left _ (List.mem_of_getLast? hlast)⟩
  have hcontent : String.ofList (endLines ls) = content := by
    rw [← htext, String.ofList_toList]
  have hwhole := preprocess_of_ordinary library defs dialect importPath hls
  rwa [dropReturns_endLines_eq_self hnewline hends, hcontent] at hwhole

/-- Ordinary text imports nothing. -/
lemma Ordinary.importRefs_eq_nil (h : Ordinary content.toList) : importRefs content = [] := by
  obtain ⟨ls, hls, htext⟩ := h
  refine List.eq_nil_iff_forall_not_mem.2 fun ref href => ?_
  obtain ⟨line, hline, hdirective⟩ := mem_importRefs_iff.1 href
  rw [htext, lines_endLines fun line hline => (hls line hline).noNewline] at hline
  obtain ⟨whole, hwhole, rfl⟩ := List.mem_map.1 hline
  rw [(hls whole hwhole).dropReturn.noDirective] at hdirective
  cases hdirective

end

/-! ### Text of files -/

namespace Settings

variable {settings : Settings} {files : FileTree} {path : Path} {shader : Shader}
  {dialect : Dialect} {content : String}

/-- Text that is read from a file holds no carriage return. -/
lemma return_not_mem_of_readShader (hread : settings.readShader files path = .ok shader)
    (hsource : shader.source = .text dialect content) : '\r' ∉ content.toList := by
  obtain ⟨-, data, -, htext⟩ := text_of_readShader hread hsource
  obtain ⟨decode, text, -, -, rfl⟩ := textOf_eq_ok_iff.1 htext
  rw [String.toList_ofList]
  exact return_not_mem_unifyNewlines _

/-- Text without carriage returns that was written in UTF-8 is read as it was. -/
lemma textOf_encodeUtf8 (hencoding : settings.encoding = "utf-8")
    (hreturn : '\r' ∉ content.toList) :
    settings.textOf (encodeUtf8 content.toList) = .ok content := by
  have hdecode : Encoding.utf8.decode (encodeUtf8 content.toList) = .ok content.toList := by
    rw [Encoding.decode, decodeUtf8_encodeUtf8]
    rfl
  refine textOf_eq_ok_iff.2 ⟨_, content.toList, decoder_of_utf8 hencoding, hdecode, ?_⟩
  rw [unifyNewlines_eq_self hreturn, String.ofList_toList]

end Settings

end ShaderPreprocessor

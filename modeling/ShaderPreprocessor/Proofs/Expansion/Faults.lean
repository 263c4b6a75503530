/-
Why an expansion fails.

* `expandLines_error`: the lines of one text fail for a block that is closed too often or left open,
  or for an import;
* `spliceRef_error`: an import fails because its reference leads nowhere, because the shader that it
  leads to fails, or because that is not text of the family of the importer;
* `Library.Faulty`: what a shader by itself is at fault for, one case for each error;
* `exists_faulty_of_error`: what fails leads to a shader that is at fault for it, however deep below
  and whatever was expanded before;
* `preprocess_ne_unspecified`: so no error of preprocessing is left unspecified;
* `exists_faulty_of_preprocess_error`: none is without such a shader.
-/
import ShaderPreprocessor.Proofs.Expansion.Success

namespace ShaderPreprocessor

open Text Relation

/-! ### Where a failure comes from -/

/-- The lines of one text fail for a block that is closed too often, for one that is left open, or
as an import among them does. -/
lemma expandLines_error {splice : ImportRef → Expanding (List Char)} {defs : List String}
    {scope : Scope} {ls : List Line} {e : Stop}
    (h : (expandLines splice defs scope ls).outcome = .error e) :
    (e = .fault .tooManyEndifs ∧ ¬ Unclosed scope.outer.length ls) ∨
      (e = .fault .notEnoughEndifs ∧ 0 < scope.outer.length + nesting ls) ∨
        ∃ line ∈ ls, ∃ ref, Directive.ofLine? line = some (.splice ref) ∧
          (splice ref).outcome = .error e := by
  induction ls generalizing scope with
  | nil =>
      rw [expandLines] at h
      split at h
      · cases h
      · next hopen =>
          cases h
          have hlength := List.length_pos_iff.2 hopen
          exact .inr (.inl ⟨rfl, by rw [nesting_nil]; omega⟩)
  | cons line ls ih =>
      rw [expandLines_cons] at h
      split at h
      · next hnext =>
          cases h
          have hclosed := Scope.next?_eq_none_iff.1 hnext
          refine .inl ⟨rfl, fun hunclosed => ?_⟩
          have hrest := (unclosed_cons.1 hunclosed).2 [] List.nil_prefix
          rw [nesting_nil] at hrest
          omega
      · next scope' hnext =>
          have hdepth := Scope.length_outer_next? hnext
          obtain hown | ⟨text, -, hrest⟩ := Traced.bind_outcome_eq_error_iff.1 h
          · obtain ⟨ref, hline, href⟩ := ownText_outcome_eq_error_iff.1 hown
            exact .inr (.inr ⟨line, List.mem_cons_self, ref, hline, href⟩)
          · obtain ⟨rfl, hmany⟩ | ⟨rfl, hfew⟩ | ⟨line', hmem, ref, hline, href⟩ :=
              ih (Traced.map_outcome_eq_error_iff.1 hrest)
            · refine .inl ⟨rfl, fun hunclosed => hmany ?_⟩
              rw [hdepth]
              exact (unclosed_cons.1 hunclosed).2
            · refine .inr (.inl ⟨rfl, ?_⟩)
              rw [nesting_cons]
              omega
            · exact .inr (.inr ⟨line', List.mem_cons_of_mem _ hmem, ref, hline, href⟩)

/-- Text or a compiled module is not spliced in if it is not text of the family of the importer. -/
lemma spliceable_error {dialect : Dialect} {ref : ImportRef} {processed : Processed} {e : Stop}
    (h : (spliceable dialect ref processed).outcome = .error e) :
    e = .fault (.mismatched ref) ∧ ∀ other content, processed = .text other content →
      dialect.sameFamily other = false := by
  cases processed with
  | text other content =>
      rw [spliceable] at h
      split at h
      · cases h
      · next hfamily =>
          cases h
          refine ⟨rfl, fun other' content' heq => ?_⟩
          cases heq
          exact Bool.eq_false_iff.2 hfamily
  | spirv data =>
      cases h
      exact ⟨rfl, fun other content heq => by cases heq⟩

/-- An import fails because its reference leads nowhere, because the shader that it leads to
fails, or because what that comes to is not text of the family of the importer. -/
lemma spliceRef_error {library : Library} {dialect : Dialect}
    {process : Shader → Expanding Processed} {ref : ImportRef} {e : Stop}
    (h : (spliceRef library dialect process ref).outcome = .error e) :
    (library.resolve? ref = none ∧ e = .fault (.unresolved ref)) ∨
      ∃ g shader, library.resolve? ref = some (g, shader) ∧
        ((process shader).outcome = .error e ∨ e = .fault (.mismatched ref) ∧
          ∃ processed, (process shader).outcome = .ok processed ∧
            ∀ other content, processed = .text other content →
              dialect.sameFamily other = false) := by
  rw [spliceRef] at h
  cases hresolve : library.resolve? ref with
  | none =>
      rw [hresolve] at h
      cases h
      exact .inl ⟨rfl, rfl⟩
  | some found =>
      obtain ⟨g, shader⟩ := found
      rw [hresolve] at h
      refine .inr ⟨g, shader, rfl, ?_⟩
      obtain hrecord | ⟨-, -, hnext⟩ := Traced.bind_outcome_eq_error_iff.1 h
      · cases hrecord
      · obtain hprocess | ⟨processed, hprocessed, hsplice⟩ :=
          Traced.bind_outcome_eq_error_iff.1 hnext
        · exact .inl hprocess
        · obtain ⟨heq, hfamily⟩ := spliceable_error hsplice
          exact .inr ⟨heq, processed, hprocessed, hfamily⟩

/-! ### Shaders that are at fault -/

/-- A shader is at fault for an error: what stands in it, and what its references lead to, explain
the error without a look at any other shader. Nothing explains that a compiled module imports a
shader. -/
inductive Library.Faulty (library : Library) (defs : List String) (shader : Shader) :
    ProcessError → Prop where
  /-- Some beginning of its lines closes more blocks than it opens. -/
  | tooManyEndifs {dialect : Dialect} {content : String} {part : List Line}
      (hsource : shader.source = .text dialect content) (hpart : part <+: lines content.toList)
      (hclosed : nesting part < 0) : Faulty library defs shader .tooManyEndifs
  /-- Its lines open more blocks than they close. -/
  | notEnoughEndifs {dialect : Dialect} {content : String}
      (hsource : shader.source = .text dialect content)
      (hopen : 0 < nesting (lines content.toList)) : Faulty library defs shader .notEnoughEndifs
  /-- It is a compiled module, and names are defined. -/
  | unsupportedDefs {data : List UInt8} (hsource : shader.source = .spirv data)
      (hdefs : defs ≠ []) : Faulty library defs shader .unsupportedDefs
  /-- One of its references stands for no handle, or for one without a shader. -/
  | unresolved {ref : ImportRef} (hmem : ref ∈ shader.imports)
      (hnone : ∀ h, library.imports.get? ref = some h → library.shaders.get? h = none) :
      Faulty library defs shader (.unresolved ref)
  /-- It is text, and one of its references leads to a shader that is not text of its family. -/
  | mismatched {dialect : Dialect} {content : String} {ref : ImportRef} {h : Handle}
      {imported : Shader} (hsource : shader.source = .text dialect content)
      (hmem : ref ∈ shader.imports) (hresolve : library.resolve? ref = some (h, imported))
      (hfamily : ∀ other text, imported.source = .text other text →
        dialect.sameFamily other = false) : Faulty library defs shader (.mismatched ref)

section

variable {library : Library} {defs : List String} {ref : ImportRef}

/-- A reference leads nowhere exactly if it stands for no handle, or for one without a shader. -/
lemma Library.resolve?_eq_none_iff : library.resolve? ref = none ↔
    ∀ h, library.imports.get? ref = some h → library.shaders.get? h = none := by
  simp only [resolve?, Option.bind_eq_none_iff, Option.map_eq_none_iff]

/-- What fails leads to a shader that is at fault for the error. -/
lemma exists_faulty_of_error {depth : ℕ} {shader : Shader} {error : ProcessError}
    (h : (expand library defs depth shader).outcome = .error (.fault error)) :
    ∃ s, ReflTransGen library.Imports shader s ∧ library.Faulty defs s error := by
  induction depth generalizing shader with
  | zero => cases h
  | succ depth ih =>
      cases hsource : shader.source with
      | spirv data =>
          rw [expand_module hsource] at h
          split at h
          · cases h
          · next hdefs =>
              cases h
              exact ⟨shader, .refl, .unsupportedDefs hsource hdefs⟩
      | text dialect content =>
          rw [expand_text hsource, Traced.map_outcome_eq_error_iff] at h
          obtain ⟨heq, hmany⟩ | ⟨heq, hfew⟩ | ⟨line, hline, ref, hdirective, href⟩ :=
            expandLines_error h
          · cases heq
            simp only [Unclosed, not_forall, not_le] at hmany
            obtain ⟨part, hpart, hclosed⟩ := hmany
            refine ⟨shader, .refl, .tooManyEndifs hsource hpart ?_⟩
            simpa [Scope.root] using hclosed
          · cases heq
            refine ⟨shader, .refl, .notEnoughEndifs hsource ?_⟩
            simpa [Scope.root] using hfew
          · have hmem : ref ∈ shader.imports :=
              (mem_imports_iff hsource).2 ⟨line, hline, hdirective⟩
            obtain ⟨hnone, heq⟩ | ⟨g, imported, hresolve, himported | ⟨heq, hfamily⟩⟩ :=
              spliceRef_error href
            · cases heq
              exact ⟨shader, .refl, .unresolved hmem (Library.resolve?_eq_none_iff.1 hnone)⟩
            · obtain ⟨s, hpath, hs⟩ := ih himported
              exact ⟨s, .head ⟨ref, hmem, g, hresolve⟩ hpath, hs⟩
            · cases heq
              obtain ⟨processed, hprocessed, hfamily⟩ := hfamily
              refine ⟨shader, .refl, .mismatched hsource hmem hresolve fun other text hother => ?_⟩
              -- the text that did not fit is of the dialect that the imported shader is of
              obtain ⟨text', rfl⟩ := expand_text_of_succeeds hother hprocessed
              exact hfamily other text' rfl

/-- A reference that is reported as unresolved leads nowhere. -/
lemma resolve?_eq_none_of_unresolved {depth : ℕ} {shader : Shader}
    (h : (expand library defs depth shader).outcome = .error (.fault (.unresolved ref))) :
    library.resolve? ref = none := by
  obtain ⟨s, -, hs⟩ := exists_faulty_of_error h
  cases hs with
  | unresolved _ hnone => exact Library.resolve?_eq_none_iff.2 hnone

end

/-- Preprocessing never fails with an error of which nothing is said. -/
theorem preprocess_ne_unspecified (library : Library) (defs : List String) (shader : Shader) :
    (library.preprocess defs shader).outcome ≠ .error (.fault .unspecified) := by
  intro h
  obtain ⟨s, -, hs⟩ := exists_faulty_of_error h
  cases hs

/-- **Errors and faults.** If preprocessing fails with an error, the shader leads to one that is at
fault for it: a text that closes blocks it has not opened, or leaves some open, a compiled module
while names are defined, a shader with a reference that leads nowhere, or a text with one that leads
to something other than text of its family. That a compiled module imports a shader is never
reported. -/
theorem exists_faulty_of_preprocess_error {library : Library} {defs : List String}
    {shader : Shader} {error : ProcessError}
    (h : (library.preprocess defs shader).outcome = .error (.fault error)) :
    (∃ s, ReflTransGen library.Imports shader s ∧ library.Faulty defs s error) ∧
      error ≠ .unsupportedImports := by
  obtain ⟨s, hpath, hs⟩ := exists_faulty_of_error h
  refine ⟨⟨s, hpath, hs⟩, ?_⟩
  rintro rfl
  cases hs

/-- A shader that imports a name that nothing stands for, in a block; one that closes a block before
it opens one; and one of the other language. One more name stands for a handle without a shader. -/
def faultyLibrary : Library where
  shaders := .ofList [(⟨0⟩, ⟨.text .wgsl "#ifdef A\n#import gone\n#endif\n", none⟩),
    (⟨1⟩, ⟨.text .wgsl "a\n#endif\n#ifdef A\n", none⟩),
    (⟨2⟩, ⟨.text (.glsl .vertex) "#import lost\n", none⟩)]
  imports := .ofList [(.custom "mid", ⟨0⟩), (.custom "low", ⟨1⟩), (.custom "other", ⟨2⟩),
    (.custom "lost", ⟨7⟩)]

/-- The first fault that is met counts, below the shader or in it: a reference in a block that is
not kept, and a block that is closed too early although as many are opened as are closed. -/
theorem exists_faulty_below :
    (∃ s, ReflTransGen faultyLibrary.Imports
        ⟨.text .wgsl "#import mid\n#import other\n#endif", none⟩ s ∧
      faultyLibrary.Faulty [] s (.unresolved (.custom "gone"))) ∧
    ∃ s, ReflTransGen faultyLibrary.Imports ⟨.text .wgsl "#ifdef A\n#import low", none⟩ s ∧
      faultyLibrary.Faulty ["A"] s .tooManyEndifs := by
  have hgone : (faultyLibrary.preprocess []
      ⟨.text .wgsl "#import mid\n#import other\n#endif", none⟩).outcome =
        .error (.fault (.unresolved (.custom "gone"))) := rfl
  have hmany : (faultyLibrary.preprocess ["A"]
      ⟨.text .wgsl "#ifdef A\n#import low", none⟩).outcome =
        .error (.fault .tooManyEndifs) := rfl
  exact ⟨(exists_faulty_of_preprocess_error hgone).1, (exists_faulty_of_preprocess_error hmany).1⟩

end ShaderPreprocessor

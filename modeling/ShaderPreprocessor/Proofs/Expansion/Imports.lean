/-
Import lines, and what they lead to.

* `ofLine?_eq_splice_iff`: the import lines of an expansion are the lines that the references of a
  shader are read off; no such line is a conditional line;
* `mem_importRefs_iff`, `mem_imports_iff`: the references of a text, and of a shader of it, are
  those of its import lines;
* `spliceRef_outcome_eq_ok_iff`: an import has a text if its reference leads to a shader that comes
  to text of the same family;
* `expand_text`, `expand_module`: the expansion of a text is that of its lines, and a compiled
  module is left as it is;
* `Library.Imports`: one shader leads to another by one of its references;
* `Library.acyclic_induction`: along steps to stored shaders that lead round in no cycle there are
  no more steps than stored shaders, so that what holds of a shader at a depth as soon as it holds
  one level deeper of all that it steps to, holds at one level more than there are stored shaders.
-/
import ShaderPreprocessor.Expansion
import ShaderPreprocessor.Proofs.Directive.Keywords

namespace ShaderPreprocessor

open Text Relation

/-! ### Import lines -/

/-- A line is an import line of an expansion exactly if a reference is read off it. -/
lemma Directive.ofLine?_eq_splice_iff {line : Line} {ref : ImportRef} :
    ofLine? line = some (splice ref) ↔ importRef? line = some ref := by
  simp [← Keyword.exists_test?_iff, Keyword.test?_eq_splice_iff]

/-- The references of a text are those of its import lines. -/
lemma mem_importRefs_iff {text : String} {ref : ImportRef} :
    ref ∈ importRefs text ↔
      ∃ line ∈ lines text.toList, Directive.ofLine? line = some (.splice ref) := by
  simp only [importRefs, List.mem_filterMap, Directive.ofLine?_eq_splice_iff]

/-- So are the references of a shader of this text. -/
lemma mem_imports_iff {shader : Shader} {dialect : Dialect} {content : String}
    (hsource : shader.source = .text dialect content) {ref : ImportRef} :
    ref ∈ shader.imports ↔
      ∃ line ∈ lines content.toList, Directive.ofLine? line = some (.splice ref) := by
  rw [Shader.imports, hsource]
  exact mem_importRefs_iff

/-! ### What they lead to -/

/-- Text is spliced in if it is of the same family. -/
lemma spliceable_outcome_eq_ok_iff {dialect : Dialect} {ref : ImportRef} {processed : Processed}
    {text : List Char} :
    (spliceable dialect ref processed).outcome = .ok text ↔
      ∃ other content, processed = .text other content ∧ dialect.sameFamily other = true ∧
        text = content.toList := by
  cases processed with
  | text other content =>
      rw [spliceable]
      split
      · next h =>
          constructor
          · rintro ⟨⟩
            exact ⟨other, content, rfl, h, rfl⟩
          · rintro ⟨_, _, heq, -, rfl⟩
            cases heq
            rfl
      · next h =>
          constructor
          · rintro ⟨⟩
          · rintro ⟨_, _, heq, h', -⟩
            cases heq
            exact absurd h' h
  | spirv data => simp [spliceable, Traced.fail]

/-- An import has a text if its reference leads to a shader that comes to text of the same
family. -/
lemma spliceRef_outcome_eq_ok_iff {library : Library} {dialect : Dialect}
    {process : Shader → Expanding Processed} {ref : ImportRef} {text : List Char} :
    (spliceRef library dialect process ref).outcome = .ok text ↔
      ∃ h shader other content, library.resolve? ref = some (h, shader) ∧
        (process shader).outcome = .ok (.text other content) ∧
          dialect.sameFamily other = true ∧ text = content.toList := by
  unfold spliceRef
  split
  · next hnone => simp [hnone, Traced.fail]
  · next h shader hsome =>
      simp only [Traced.bind_outcome_eq_ok_iff, spliceable_outcome_eq_ok_iff, hsome]
      constructor
      · rintro ⟨_, _, processed, hprocessed, other, content, rfl, hfamily, htext⟩
        exact ⟨h, shader, other, content, rfl, hprocessed, hfamily, htext⟩
      · rintro ⟨h', shader', other, content, heq, hprocessed, hfamily, htext⟩
        cases heq
        exact ⟨(), rfl, _, hprocessed, other, content, rfl, hfamily, htext⟩

/-- The expansion of a text is that of its lines. -/
lemma expand_text {library : Library} {defs : List String} {depth : ℕ} {shader : Shader}
    {dialect : Dialect} {content : String} (hsource : shader.source = .text dialect content) :
    expand library defs (depth + 1) shader =
      (expandLines (spliceRef library dialect (expand library defs depth)) defs .root
        (lines content.toList)).map fun text => .text dialect (String.ofList text) := by
  rw [expand, hsource]

/-- A compiled module is left as it is, and refused if names are defined. -/
lemma expand_module {library : Library} {defs : List String} {depth : ℕ} {shader : Shader}
    {data : List UInt8} (hsource : shader.source = .spirv data) :
    expand library defs (depth + 1) shader =
      if defs = [] then .pure (.spirv data) else .fail (.fault .unsupportedDefs) := by
  rw [expand, hsource]

/-- An expansion of text comes to text of the dialect. -/
lemma expand_text_outcome_eq_ok_iff {library : Library} {defs : List String} {depth : ℕ}
    {shader : Shader} {dialect : Dialect} {content : String} {result : Processed}
    (hsource : shader.source = .text dialect content) :
    (expand library defs (depth + 1) shader).outcome = .ok result ↔
      ∃ text, (expandLines (spliceRef library dialect (expand library defs depth)) defs .root
        (lines content.toList)).outcome = .ok text ∧
          .text dialect (String.ofList text) = result := by
  rw [expand_text hsource]
  exact Traced.map_outcome_eq_ok_iff

namespace Library

/-- One shader imports another: one of its references leads there. -/
def Imports (library : Library) (shader imported : Shader) : Prop :=
  ∃ ref ∈ shader.imports, ∃ h, library.resolve? ref = some (h, imported)

/-- What a reference leads to is stored under its handle. -/
lemma shaders_of_resolve {library : Library} {ref : ImportRef} {h : Handle} {shader : Shader}
    (hresolve : library.resolve? ref = some (h, shader)) :
    library.imports.get? ref = some h ∧ library.shaders.get? h = some shader := by
  obtain ⟨h', himport, hmap⟩ := Option.bind_eq_some_iff.1 hresolve
  obtain ⟨shader', hshader, heq⟩ := Option.map_eq_some_iff.1 hmap
  cases heq
  exact ⟨himport, hshader⟩

/-- Different handles of stored shaders are no more than there are stored shaders. -/
lemma length_le_size {library : Library} {above : List Handle} (hnodup : above.Nodup)
    (hstored : ∀ g ∈ above, ∃ s, library.shaders.get? g = some s) :
    above.length ≤ library.shaders.size := by
  have hsub : above ⊆ library.shaders.keys := fun g hg => Table.mem_keys_iff.2 (hstored g hg)
  have hlength := (hnodup.subperm hsub).length_le
  rwa [Table.keys, List.length_map] at hlength

section

variable {library : Library} {R : Shader → Shader → Prop} {P : ℕ → Shader → Prop}
  {shader : Shader}

/-- The induction below at a shader on the way: the handles of the shaders above it are all
different. -/
lemma acyclic_induction_below
    (hstored : ∀ s t, R s t → ∃ g, library.shaders.get? g = some t)
    (hacyclic : ∀ s, ReflTransGen R shader s → ¬ TransGen R s s)
    (hstep : ∀ depth s, ReflTransGen R shader s → (∀ t, R s t → P depth t) →
      P (depth + 1) s)
    {s : Shader} {depth : ℕ} {above : List Handle} (hpath : ReflTransGen R shader s)
    (hnodup : above.Nodup)
    (habove : ∀ g ∈ above, ∃ t, library.shaders.get? g = some t ∧ ReflTransGen R t s)
    (hdepth : library.shaders.size < depth + above.length) : P depth s := by
  induction depth generalizing s above with
  | zero =>
      have := length_le_size hnodup fun g hg => (habove g hg).imp fun t ht => ht.1
      omega
  | succ depth ih =>
      refine hstep depth s hpath fun t ht => ?_
      obtain ⟨g, hg⟩ := hstored s t ht
      -- a handle met again would be one of a shader that leads to itself
      have hnew : g ∉ above := fun hmem => by
        obtain ⟨t', ht', hback⟩ := habove g hmem
        rw [hg] at ht'
        cases ht'
        exact hacyclic t (hpath.tail ht) (TransGen.tail' hback ht)
      refine ih (hpath.tail ht) (hnodup.cons hnew) ?_ ?_
      · intro g' hg'
        rcases List.mem_cons.1 hg' with rfl | hg'
        · exact ⟨t, hg, ReflTransGen.refl⟩
        · obtain ⟨t', ht', hback⟩ := habove g' hg'
          exact ⟨t', ht', hback.tail ht⟩
      · rw [List.length_cons]
        omega

/-- What holds of a shader at a depth as soon as it holds one level deeper of all that it steps to,
holds at one level more than there are stored shaders, if steps lead to stored shaders and never
round in a cycle. -/
lemma acyclic_induction (hstored : ∀ s t, R s t → ∃ g, library.shaders.get? g = some t)
    (hacyclic : ∀ s, ReflTransGen R shader s → ¬ TransGen R s s)
    (hstep : ∀ depth s, ReflTransGen R shader s → (∀ t, R s t → P depth t) →
      P (depth + 1) s) : P library.depthBound shader :=
  acyclic_induction_below hstored hacyclic hstep ReflTransGen.refl List.nodup_nil (by simp)
    (by simp [depthBound])

end

/-- What is imported is stored. -/
lemma Imports.stored {library : Library} {shader imported : Shader}
    (h : library.Imports shader imported) : ∃ g, library.shaders.get? g = some imported := by
  obtain ⟨ref, -, g, hresolve⟩ := h
  exact ⟨g, (shaders_of_resolve hresolve).2⟩

end Library

end ShaderPreprocessor

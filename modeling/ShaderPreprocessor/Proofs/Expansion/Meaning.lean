/-
What preprocessing means, said on the lines of a text and the blocks around them.

* `Library.StandsFor`: the text that a reference stands for, which is all that its shader comes to
  by itself;
* `preprocess_eq_lineTexts`: the result of preprocessing is what the lines of the shader
  contribute, in order. Whether a line is kept depends on the lines before it in the same text and
  on the defined names alone, so nothing in an imported shader changes it.
-/
import ShaderPreprocessor.Proofs.Expansion.Activity
import ShaderPreprocessor.Proofs.Expansion.Depth
import ShaderPreprocessor.Proofs.Expansion.Imports

namespace ShaderPreprocessor

open Text

/-- The text that a reference stands for under a set of defined names: what the shader that it
leads to is preprocessed to. -/
def Library.StandsFor (library : Library) (defs : List String) (ref : ImportRef)
    (part : List Char) : Prop :=
  ∃ h shader dialect content, library.resolve? ref = some (h, shader) ∧
    (library.preprocess defs shader).outcome = .ok (.text dialect content) ∧
      part = content.toList

/-- What an import comes to within an expansion it comes to by itself. -/
lemma standsFor_of_spliceRef {library : Library} {defs : List String} {dialect : Dialect}
    {depth : ℕ} {ref : ImportRef} {part : List Char} (hle : depth ≤ library.depthBound)
    (h : (spliceRef library dialect (expand library defs depth) ref).outcome = .ok part) :
    library.StandsFor defs ref part := by
  obtain ⟨handle, shader, other, content, hresolve, hshader, -, hpart⟩ :=
    spliceRef_outcome_eq_ok_iff.1 h
  exact ⟨handle, shader, other, content, hresolve, expand_ok_of_le hle hshader, hpart⟩

/-- **The meaning of a text.** A shader that can be preprocessed comes to text of its own dialect,
which is what its lines contribute one after another: an import line the text of its reference, an
ordinary line itself with a line feed if it is kept after the lines before it, a conditional line
nothing. -/
theorem preprocess_eq_lineTexts {library : Library} {defs : List String} {dialect : Dialect}
    {content : String} (importPath : Option ImportRef) {result : Processed}
    (h : (library.preprocess defs ⟨.text dialect content, importPath⟩).outcome = .ok result) :
    ∃ parts, LineTexts (library.StandsFor defs) defs [] (lines content.toList) parts ∧
      result = .text dialect (String.ofList parts.flatten) := by
  obtain ⟨text, htext, rfl⟩ := (expand_text_outcome_eq_ok_iff rfl).1 h
  obtain ⟨parts, hparts, rfl⟩ := expandLines_eq_ok Opened.nil htext
  have hle : library.shaders.size ≤ library.depthBound := Nat.le_succ _
  exact ⟨parts, hparts.imp fun ref part => standsFor_of_spliceRef hle, rfl⟩

/-- Blocks within blocks, a block turned over twice, an import in a part that is not kept, and an
imported text that is turned over as a whole. -/
theorem preprocess_nested_blocks :
    ∃ parts,
      LineTexts
        (Library.StandsFor ⟨.ofList [(⟨0⟩, ⟨.text .wgsl "#else\nx\n#else\ny\n#else", none⟩)],
          .ofList [(.custom "part", ⟨0⟩)]⟩ ["B"]) ["B"] []
        (lines ("#ifdef A\n#import part\n#else\n#ifndef B\na\n#else\nb\n#endif\n" ++
          "#else\nc\n#endif\nd").toList) parts ∧
      Processed.text .wgsl "y\nb\nd\n" = .text .wgsl (String.ofList parts.flatten) := by
  refine preprocess_eq_lineTexts none ?_
  rfl

end ShaderPreprocessor

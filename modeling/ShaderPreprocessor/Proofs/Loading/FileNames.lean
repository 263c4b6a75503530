/-
The names that the files of a tree ask for.

* `FileTree.exists_mem_nodes_of_read`: a file that is read stands in the tree;
* `FileTree.mem_names`: what a shader read from the tree asks for is among the names in its files.
-/
import ShaderPreprocessor.Proofs.Shader.Reading

namespace ShaderPreprocessor.FileTree

variable {files : FileTree} {path : Path}

/-- A file that is read stands at some place of the tree. -/
lemma exists_mem_nodes_of_read {data : List UInt8} (h : files.read path = .ok data) :
    ∃ place, (place, .file data) ∈ files.nodes.entries := by
  rw [read] at h
  split at h
  · cases h
  · next place _ =>
      split at h
      · next found hnode =>
          cases h
          exact ⟨place, Table.mem_entries_iff.2 hnode⟩
      · cases h
      · cases h

/-- What a shader read from a tree asks for is among the names in the tree. -/
lemma mem_names {settings : Settings} {shader : Shader} {name : String}
    (hread : settings.readShader files path = .ok shader)
    (hname : name ∈ assetPaths shader.imports) : name ∈ files.names settings := by
  obtain ⟨data, text, hdata, htext, hmem⟩ := Settings.exists_text_of_dependency hread hname
  obtain ⟨place, hplace⟩ := exists_mem_nodes_of_read hdata
  refine List.mem_flatMap.2 ⟨_, hplace, ?_⟩
  simp only [Settings.namesIn, htext]
  exact hmem

end ShaderPreprocessor.FileTree

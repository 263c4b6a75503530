/-
Files that are written.

* `FileTree.walk_add`: a file set where no directory stands leaves every way open that was;
* `FileTree.takes_of_locate`: a path leads to a directory, or to a place that takes a file;
* `FileTree.Writes`: one tree is another one with a file written at a path, and nothing else
  changed;
* `FileTree.writes_of_write`: so it is after a file is written.
-/
import ShaderPreprocessor.Proofs.Files.Trees

namespace ShaderPreprocessor.FileTree

variable {tree tree' : FileTree} {place start found : List String} {path : Path}
  {data : List UInt8}

/-! ### Ways -/

/-- The step of a way along a component: where the component is the last one, the way ends there
unless a directory stands at its end; otherwise there has to be a directory. -/
lemma walk_cons_eq_ok_iff {part : String} {parts : List String} (hup : part ≠ "..") :
    tree.walk start (part :: parts) = .ok found ↔
      ¬ maxPartBytes < (Text.encodeUtf8 part.toList).length ∧
        if tree.node? (start ++ [part]) = some .directory then
          tree.walk (start ++ [part]) parts = .ok found
        else parts = [] ∧ start ++ [part] = found := by
  rw [walk, if_neg hup]
  by_cases hlong : maxPartBytes < (Text.encodeUtf8 part.toList).length
  · simp [hlong]
  rw [if_neg hlong, and_iff_right hlong]
  cases hnode : tree.node? (start ++ [part]) with
  | none => by_cases hlast : parts = [] <;> simp [hlast]
  | some node =>
      cases node with
      | directory => simp
      | file data => by_cases hlast : parts = [] <;> simp [hlast]

/-- A way from a directory leads into a directory. -/
lemma node?_dropLast_of_walk {parts : List String} (hstart : tree.node? start = some .directory)
    (h : tree.walk start parts = .ok found) : tree.node? found.dropLast = some .directory := by
  induction parts generalizing start with
  | nil =>
      cases h
      exact node?_dropLast hstart
  | cons part parts ih =>
      by_cases hup : part = ".."
      · rw [walk, if_pos hup] at h
        exact ih (node?_dropLast hstart) h
      · obtain ⟨-, hstep⟩ := (walk_cons_eq_ok_iff hup).1 h
        split at hstep
        · next hdirectory => exact ih hdirectory hstep
        · obtain ⟨-, rfl⟩ := hstep
          rwa [List.dropLast_concat]

/-- A file set where no directory stands leaves every way open that was. -/
lemma walk_add (hplace : tree.Takes place) (data : List UInt8) {parts : List String}
    (h : tree.walk start parts = .ok found) :
    (tree.add place (.file data)).walk start parts = .ok found := by
  induction parts generalizing start with
  | nil => exact h
  | cons part parts ih =>
      by_cases hup : part = ".."
      · rw [walk, if_pos hup] at h ⊢
        exact ih h
      obtain ⟨hlong, hstep⟩ := (walk_cons_eq_ok_iff hup).1 h
      refine (walk_cons_eq_ok_iff hup).2 ⟨hlong, ?_⟩
      rw [node?_add hplace]
      by_cases heq : place = start ++ [part]
      · -- the file stands at the end of the way, where no directory was
        rw [if_pos heq, if_neg (by simp)]
        rwa [if_neg (heq ▸ hplace.2)] at hstep
      · rw [if_neg heq]
        split at hstep
        · next hdirectory =>
            rw [if_pos hdirectory]
            exact ih hstep
        · next hother => rwa [if_neg hother]

/-! ### Paths -/

/-- A path leads to a place if it holds no NUL character, is not too long, and its components lead
there. -/
lemma locate_eq_ok_iff : tree.locate path = .ok found ↔
    path.hasNul = false ∧ ¬ maxPathBytes < (Text.encodeUtf8 path.toText.toList).length ∧
      tree.walk (if path.anchor = .relative then tree.home else []) path.parts = .ok found := by
  rw [locate]
  cases hnul : path.hasNul with
  | true => simp
  | false =>
      by_cases hlong : maxPathBytes < (Text.encodeUtf8 path.toText.toList).length
      · simp [hlong]
      · rw [if_neg (by decide), if_neg hlong]
        cases tree.walk (if path.anchor = .relative then tree.home else []) path.parts with
        | error e =>
            refine ⟨fun h => ?_, fun h => ?_⟩
            · cases h
            · cases h.2.2
        | ok place =>
            refine ⟨fun h => ?_, fun h => ?_⟩
            · cases h
              exact ⟨rfl, hlong, rfl⟩
            · cases h.2.2
              rfl

/-- A path that does not lead to a directory leads to a place that takes a file. -/
lemma takes_of_locate (h : tree.locate path = .ok place)
    (hplace : tree.node? place ≠ some .directory) : tree.Takes place := by
  obtain ⟨-, -, hwalk⟩ := locate_eq_ok_iff.1 h
  refine ⟨node?_dropLast_of_walk ?_ hwalk, hplace⟩
  split
  · exact tree.directory_home
  · exact tree.node?_nil

/-- A path leads to the same place as before. -/
lemma locate_add (hplace : tree.Takes place) (data : List UInt8)
    (h : tree.locate path = .ok found) :
    (tree.add place (.file data)).locate path = .ok found := by
  obtain ⟨hnul, hlong, hwalk⟩ := locate_eq_ok_iff.1 h
  rw [← home_add tree place (.file data)] at hwalk
  exact locate_eq_ok_iff.2 ⟨hnul, hlong, walk_add hplace data hwalk⟩

/-- One tree is another one with a file written at a path, and nothing else changed. -/
structure Writes (tree : FileTree) (path : Path) (data : List UInt8) (tree' : FileTree) : Prop where
  /-- The working directory is the same. -/
  home : tree'.home = tree.home
  /-- The file has these bytes. -/
  read : tree'.read path = .ok data
  /-- All other places are as before. -/
  others : ∃ place, tree.locate path = .ok place ∧
    ∀ other, other ≠ place → tree'.node? other = tree.node? other

/-- A file that is written stands where its path leads, and nothing else changes. -/
lemma writes_of_write (h : tree.write path data = .ok tree') : tree.Writes path data tree' := by
  rw [write] at h
  cases hlocate : tree.locate path with
  | error e =>
      rw [hlocate] at h
      cases h
  | ok place =>
      rw [hlocate] at h
      have hplace : tree.node? place ≠ some .directory := by
        intro hdirectory
        simp only [hdirectory] at h
        cases h
      have htree : tree' = tree.add place (.file data) := by
        dsimp only at h
        split at h
        · next hdirectory => exact absurd hdirectory hplace
        · cases h
          rfl
      subst htree
      have htakes := takes_of_locate hlocate hplace
      refine ⟨home_add _ _ _, ?_, place, hlocate, fun other hother => ?_⟩
      · rw [read, locate_add htakes data hlocate]
        dsimp only
        rw [node?_add htakes, if_pos rfl]
      · rw [node?_add htakes, if_neg (Ne.symm hother)]

end ShaderPreprocessor.FileTree

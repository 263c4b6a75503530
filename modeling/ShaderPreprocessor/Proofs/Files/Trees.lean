/-
What the changes of a tree do to every place of it.

* `FileTree.node?_nil`: the root is a directory;
* `FileTree.node?_add`: a place that takes a file or directory has it, and all others are as before;
* `FileTree.node?_makeBelow`: directories made one below the other in a tree without files;
* `FileTree.home_empty`: so the directory of an empty tree is the one that it is made for.
-/
import Mathlib.Tactic
import ShaderPreprocessor.FileTree

namespace ShaderPreprocessor.FileTree

variable {tree : FileTree} {place start : List String}

/-- Every tree has a root, around its working directory. -/
lemma node?_nil (tree : FileTree) : tree.node? [] = some .directory := by
  have hup : ∀ place, tree.node? place = some .directory → tree.node? [] = some .directory := by
    intro place
    induction place using List.reverseRecOn with
    | nil => exact id
    | append_singleton front part ih =>
        intro h
        have hfront := node?_dropLast h
        rw [List.dropLast_concat] at hfront
        exact ih hfront
  exact hup tree.home tree.directory_home

/-! ### One place -/

lemma home_add (tree : FileTree) (place : List String) (node : Node) :
    (tree.add place node).home = tree.home := by
  rw [add]
  split <;> rfl

/-- What stands at a place after something was set there, and at all other places as before. -/
lemma node?_add (h : tree.Takes place) (node : Node) (other : List String) :
    (tree.add place node).node? other = if place = other then some node else tree.node? other := by
  rw [add, dif_pos h]
  exact Table.get?_insert _ _ _ _

/-- A place is made a directory if nothing stands there, and all other places are as before. -/
lemma node?_makeDirectory (haround : tree.node? place.dropLast = some .directory)
    (other : List String) :
    (tree.makeDirectory place).node? other =
      if place = other ∧ tree.node? place = none then some .directory else tree.node? other := by
  rw [makeDirectory]
  cases hnode : tree.node? place with
  | some node => simp
  | none =>
      have htakes : tree.Takes place := ⟨haround, by simp [hnode]⟩
      simp [node?_add htakes]

/-! ### Directories below one another -/

/-- Where no files are in the way, components from a directory on are made directories. -/
lemma node?_makeBelow (hstart : tree.node? start = some .directory)
    (hfree : ∀ place data, tree.node? place ≠ some (.file data)) (parts : List String) :
    (tree.makeBelow start parts).node? (start ++ parts) = some .directory := by
  induction parts generalizing tree start with
  | nil => rwa [List.append_nil]
  | cons part parts ih =>
      have haround : tree.node? (start ++ [part]).dropLast = some .directory := by
        rwa [List.dropLast_concat]
      have hmade := node?_makeDirectory haround
      rw [makeBelow, List.append_cons start part parts]
      refine ih ?_ fun place data => ?_
      · cases hnode : tree.node? (start ++ [part]) with
        | none => simp [hmade, hnode]
        | some node =>
            cases node with
            | file data => exact absurd hnode (hfree _ data)
            | directory => simp [hmade, hnode]
      · rw [hmade]
        split
        · exact fun h => by cases h
        · exact hfree place data

/-- The working directory of an empty tree is the one that the tree is made for. -/
theorem home_empty (home : List String) : (empty home).home = home := by
  have hfree : ∀ place data, root.node? place ≠ some (.file data) := by
    intro place data
    simp [root, node?, Table.get?_insert]
  have hmade := node?_makeBelow (node?_nil root) hfree home
  rw [empty, enter, makeDirectories]
  exact congrArg FileTree.home (dif_pos hmade)

end ShaderPreprocessor.FileTree

/-
Files and directories, and what happens when one is opened. A path is followed component by
component from the working directory or from the root. There are no links, and no permissions:
everything that stands in the tree can be read and written.

* `FileTree`: what stands at each place. Everything stands in a directory, and so does whoever works
  in the tree;
* `FileTree.add`: one more file or directory, where there is a directory around it;
* `FileTree.locate`: the place that a path leads to;
* `FileTree.read`, `FileTree.write`: a file read or written whole, or why it cannot be opened;
* `FileTree.put`, `FileTree.delete`: a file set or dropped without opening a path.

A path that cannot be opened fails for one reason: a NUL character first, then the length of the
whole path, then the first component that leads nowhere, then a directory where a file is wanted.
-/
import ShaderPreprocessor.Path
import ShaderPreprocessor.Table
import ShaderPreprocessor.Text.Quoted
import ShaderPreprocessor.Text.Utf8

namespace ShaderPreprocessor

open Text

/-! ### Failures -/

/-- Why the system does not open a file. -/
inductive SystemError where
  /-- A component does not exist. -/
  | notFound
  /-- A component is a file but not the last one. -/
  | notDirectory
  /-- The path leads to a directory. -/
  | isDirectory
  /-- The path or a component of it is too long. -/
  | nameTooLong
  deriving DecidableEq, Repr

namespace SystemError

/-- The number of a system error. -/
def code : SystemError → Nat
  | notFound => 2
  | notDirectory => 20
  | isDirectory => 21
  | nameTooLong => 36

/-- The words for a system error. -/
def text : SystemError → String
  | notFound => "No such file or directory"
  | notDirectory => "Not a directory"
  | isDirectory => "Is a directory"
  | nameTooLong => "File name too long"

end SystemError

/-- Why a file cannot be opened. -/
inductive AccessError where
  /-- The path holds a NUL character. -/
  | nulInPath
  /-- The system refuses. -/
  | system (error : SystemError) (path : Path)
  deriving DecidableEq, Repr

/-- What is said about a file that cannot be opened. -/
def AccessError.message : AccessError → String
  | nulInPath => "embedded null byte"
  | system error path =>
    "[Errno " ++ toString error.code ++ "] " ++ error.text ++ ": " ++ quoted path.toText

/-! ### Trees -/

/-- What stands at a place. -/
inductive Node where
  | file (data : List UInt8)
  | directory
  deriving DecidableEq, Repr

/-- The files and directories, by their components from the root on, and the working directory. -/
structure FileTree where
  /-- The components of the working directory. -/
  home : List String
  /-- What stands at each place. -/
  nodes : Table (List String) Node
  /-- The working directory is a directory. -/
  directory_home : nodes.get? home = some .directory
  /-- What stands at a place stands in a directory. -/
  directory_around : ∀ place part, nodes.get? (place ++ [part]) ≠ none →
    nodes.get? place = some .directory

namespace FileTree

/-- What stands at a place. -/
def node? (tree : FileTree) (place : List String) : Option Node := tree.nodes.get? place

/-- The directory around a place is one, and so is the root. -/
theorem node?_dropLast {tree : FileTree} {place : List String}
    (h : tree.node? place = some .directory) : tree.node? place.dropLast = some .directory := by
  by_cases hne : place = []
  · rw [hne] at h ⊢
    exact h
  · refine tree.directory_around place.dropLast (place.getLast hne) ?_
    rw [List.dropLast_concat_getLast, ← node?, h]
    exact Option.some_ne_none _

/-! ### Changes -/

/-- Whether something may be set at a place: there is a directory around it, and none at it. -/
def Takes (tree : FileTree) (place : List String) : Prop :=
  tree.node? place.dropLast = some .directory ∧ tree.node? place ≠ some .directory

instance (tree : FileTree) (place : List String) : Decidable (tree.Takes place) :=
  inferInstanceAs (Decidable (_ ∧ _))

namespace Takes

variable {tree : FileTree} {place : List String}

/-- A directory stays where something is set. -/
theorem get?_insert_of_directory (h : tree.Takes place) (node : Node) {other : List String}
    (hother : tree.nodes.get? other = some .directory) :
    (tree.nodes.insert place node).get? other = some .directory := by
  have hne : place ≠ other := fun heq => h.2 (heq ▸ hother)
  rw [Table.get?_insert, if_neg hne, hother]

/-- With what is set, everything stands in a directory. -/
theorem get?_insert_around (h : tree.Takes place) (node : Node) (other : List String)
    (part : String) (hother : (tree.nodes.insert place node).get? (other ++ [part]) ≠ none) :
    (tree.nodes.insert place node).get? other = some .directory := by
  refine h.get?_insert_of_directory node ?_
  by_cases heq : place = other ++ [part]
  · have haround := h.1
    rw [heq, List.dropLast_concat] at haround
    exact haround
  · rw [Table.get?_insert, if_neg heq] at hother
    exact tree.directory_around other part hother

end Takes

/-- A file or directory set at a place, if the place takes it. -/
def add (tree : FileTree) (place : List String) (node : Node) : FileTree :=
  if h : tree.Takes place then
    { home := tree.home
      nodes := tree.nodes.insert place node
      directory_home := h.get?_insert_of_directory node tree.directory_home
      directory_around := h.get?_insert_around node }
  else tree

/-- A place made a directory, unless something stands there. -/
def makeDirectory (tree : FileTree) (place : List String) : FileTree :=
  if (tree.node? place).isSome then tree else tree.add place .directory

/-- Directories made along components from a place on. -/
def makeBelow (tree : FileTree) : List String → List String → FileTree
  | _, [] => tree
  | place, part :: parts =>
    makeBelow (tree.makeDirectory (place ++ [part])) (place ++ [part]) parts

/-- A place and all that is around it made directories. -/
def makeDirectories (tree : FileTree) (place : List String) : FileTree := tree.makeBelow [] place

/-- A file set at a place, in directories that are made as needed. -/
def put (tree : FileTree) (place : List String) (data : List UInt8) : FileTree :=
  (tree.makeDirectories place.dropLast).add place (.file data)

/-- What stands neither at a place nor below it. -/
def outside (tree : FileTree) (place : List String) : Table (List String) Node :=
  tree.nodes.filter fun entry => !place.isPrefixOf entry.1

theorem get?_outside (tree : FileTree) (place other : List String) :
    (tree.outside place).get? other =
      if place.isPrefixOf other then none else tree.nodes.get? other := by
  rw [outside, Table.get?_filter]
  by_cases h : place.isPrefixOf other <;> cases tree.nodes.get? other <;> simp [h]

/-- Outside a place, too, everything stands in a directory. -/
theorem get?_outside_around (tree : FileTree) (place other : List String) (part : String)
    (hother : (tree.outside place).get? (other ++ [part]) ≠ none) :
    (tree.outside place).get? other = some .directory := by
  rw [get?_outside] at hother ⊢
  split at hother
  · exact absurd rfl hother
  · next hbelow =>
    have habove : ¬ place.isPrefixOf other := fun h => hbelow
      (List.isPrefixOf_iff_prefix.2
        ((List.isPrefixOf_iff_prefix.1 h).trans (List.prefix_append other [part])))
    rw [if_neg habove, tree.directory_around other part hother]

/-- The tree without what stands at a place and below it. What the working directory lies in
stays. -/
def delete (tree : FileTree) (place : List String) : FileTree :=
  if h : place.isPrefixOf tree.home then tree
  else
    { home := tree.home
      nodes := tree.outside place
      directory_home := by rw [get?_outside, if_neg h, tree.directory_home]
      directory_around := tree.get?_outside_around place }

/-- The root alone, which is also the working directory. -/
def root : FileTree where
  home := []
  nodes := Table.empty.insert [] .directory
  directory_home := by rw [Table.get?_insert, if_pos rfl]
  directory_around := by
    intro place part h
    simp [Table.get?_insert] at h

/-- A directory made the working directory. -/
def enter (tree : FileTree) (place : List String) : FileTree :=
  if h : tree.node? place = some .directory then
    { tree with home := place, directory_home := h }
  else tree

/-- The tree with nothing in it but the working directory. -/
def empty (home : List String) : FileTree := (root.makeDirectories home).enter home

/-! ### Opening -/

/-- The most bytes that a component may have. -/
def maxPartBytes : Nat := 255

/-- The most bytes that a path may have. -/
def maxPathBytes : Nat := 4095

/-- The place that components lead to from a directory. The last one need not exist. -/
def walk (tree : FileTree) : List String → List String → Except SystemError (List String)
  | place, [] => .ok place
  | place, part :: parts =>
    if part = ".." then walk tree place.dropLast parts
    else if maxPartBytes < (encodeUtf8 part.toList).length then .error .nameTooLong
    else
      match tree.node? (place ++ [part]) with
      | some .directory => walk tree (place ++ [part]) parts
      | some (.file _) => if parts = [] then .ok (place ++ [part]) else .error .notDirectory
      | none => if parts = [] then .ok (place ++ [part]) else .error .notFound

/-- The place that a path leads to. -/
def locate (tree : FileTree) (path : Path) : Except AccessError (List String) :=
  if path.hasNul then .error .nulInPath
  else if maxPathBytes < (encodeUtf8 path.toText.toList).length then
    .error (.system .nameTooLong path)
  else
    (tree.walk (if path.anchor = .relative then tree.home else []) path.parts).mapError
      (.system · path)

/-- The bytes of a file. -/
def read (tree : FileTree) (path : Path) : Except AccessError (List UInt8) :=
  match tree.locate path with
  | .error e => .error e
  | .ok place =>
    match tree.node? place with
    | some (.file data) => .ok data
    | some .directory => .error (.system .isDirectory path)
    | none => .error (.system .notFound path)

/-- A file written. Its directory has to exist. -/
def write (tree : FileTree) (path : Path) (data : List UInt8) : Except AccessError FileTree :=
  match tree.locate path with
  | .error e => .error e
  | .ok place =>
    match tree.node? place with
    | some .directory => .error (.system .isDirectory path)
    | _ => .ok (tree.add place (.file data))

end FileTree

end ShaderPreprocessor

/-
Paths as text. A path is a row of components between slashes, from the working directory or from
the root. Empty components and single dots say nothing and are dropped; double dots stay, since
what they mean depends on the files.

* `Path.ofText`, `Path.toText`: reading and writing;
* `Path.join`, `Path.parent`: one path below another, and the directory of a path;
* `Path.suffix`, `Path.suffixes`: the extensions of a file name;
* `Path.resolve`: the components from the root on, double dots taken away by their text.
-/
import ShaderPreprocessor.Text.Cut

namespace ShaderPreprocessor

open Text

/-- Where a path starts. -/
inductive Anchor where
  /-- In the working directory. -/
  | relative
  /-- At the root. -/
  | root
  /-- At the root, written with exactly two slashes. -/
  | doubleRoot
  deriving DecidableEq, Repr

/-- A path. -/
structure Path where
  /-- Where it starts. -/
  anchor : Anchor
  /-- Its components, none of them empty or a single dot. -/
  parts : List String
  deriving DecidableEq, Repr

namespace Anchor

/-- The start of a text that is a path. Three slashes and more are one. -/
def ofText : List Char → Anchor
  | '/' :: '/' :: '/' :: _ => root
  | '/' :: '/' :: _ => doubleRoot
  | '/' :: _ => root
  | _ => relative

/-- What a start is written as. -/
def toText : Anchor → String
  | relative => ""
  | root => "/"
  | doubleRoot => "//"

end Anchor

namespace Path

/-- Whether a piece between slashes is a component. -/
def isPart (piece : List Char) : Bool := piece ≠ [] && piece ≠ ['.']

/-- The path that a text writes. -/
def ofText (text : String) : Path where
  anchor := .ofText text.toList
  parts := ((text.toList.splitOn '/').filter isPart).map String.ofList

/-- A path as text. The working directory is a dot. -/
def toText (path : Path) : String :=
  if path.anchor = .relative ∧ path.parts = [] then "."
  else path.anchor.toText ++ String.ofList (['/'].intercalate (path.parts.map String.toList))

/-- A path taken from a directory. A path that starts at the root stays as it is. -/
def join (base path : Path) : Path :=
  if path.anchor = .relative then ⟨base.anchor, base.parts ++ path.parts⟩ else path

/-- The directory that a path lies in. -/
def parent (path : Path) : Path := ⟨path.anchor, path.parts.dropLast⟩

/-- The last component; empty if there is none. -/
def name (path : Path) : List Char := (path.parts.getLast?.getD "").toList

/-- The extension of a file name, with its dot. A dot at either end of the name starts none. -/
def suffixOf (name : List Char) : List Char :=
  match cutLast? '.' name with
  | some (front, rest) => if front ≠ [] ∧ rest ≠ [] then '.' :: rest else []
  | none => []

/-- The extension of a path. -/
def suffix (path : Path) : String := String.ofList (suffixOf path.name)

/-- All extensions of a file name, each with its dot. Dots at the start of the name do not count,
and a name that ends in a dot has none. -/
def suffixesOf (name : List Char) : List (List Char) :=
  if name.getLast? = some '.' then []
  else (((name.dropWhile (· = '.')).splitOn '.').drop 1).map ('.' :: ·)

/-- All extensions of a path. -/
def suffixes (path : Path) : List String := (suffixesOf path.name).map String.ofList

/-- One component taken from a place: double dots lead back. -/
def descend (place : List String) (part : String) : List String :=
  if part = ".." then place.dropLast else place ++ [part]

/-- The components of a path from the root on, for a working directory given in the same way. Double
dots take away what stands before them, whether it exists or not: there are no links, so they lead
nowhere else, and no permissions, so every directory can be passed. -/
def resolve (home : List String) (path : Path) : List String :=
  path.parts.foldl descend (if path.anchor = .relative then home else [])

/-- Whether a path holds a NUL character. -/
def hasNul (path : Path) : Bool := path.parts.any fun part => part.toList.contains '\x00'

@[simp] theorem parent_parts (path : Path) : path.parent.parts = path.parts.dropLast := rfl

/-- A relative path taken from a directory has the components of both. -/
theorem join_of_relative (base : Path) {path : Path} (h : path.anchor = .relative) :
    base.join path = ⟨base.anchor, base.parts ++ path.parts⟩ := by
  simp [join, h]

end Path

end ShaderPreprocessor

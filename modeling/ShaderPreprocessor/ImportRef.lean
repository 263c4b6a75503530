/-
References to imported shaders. A reference names either a file below the asset root, written in
double quotes, or a shader registered under a name of its own, written as it is.

* `ImportRef.toText`: a reference as it stands in a shader;
* `ImportRef.ofTail?`: the reference that follows the keyword of an import line.
-/
import ShaderPreprocessor.Text.Blank
import ShaderPreprocessor.Text.Cut

namespace ShaderPreprocessor

open Text

/-- A requested import. -/
inductive ImportRef where
  /-- A file, by its path below the asset root. -/
  | asset (path : String)
  /-- A shader, by the name it is registered under. -/
  | custom (name : String)
  deriving DecidableEq, Repr

namespace ImportRef

/-- A reference as a shader writes it: a file name in double quotes, any other name as it is. -/
def toText : ImportRef → String
  | asset path => "\"" ++ path ++ "\""
  | custom name => name

/-- The file name in a quoted word: what stands between its opening quote and the last quote after
it, if that is not empty. -/
def quoted? : List Char → Option (List Char)
  | '"' :: text => ((cutLast? '"' text).map Prod.fst).filter (· ≠ [])
  | _ => none

/-- The first line of a text without the blanks before it. -/
def firstLine (text : List Char) : List Char := (trimStart text).takeWhile (· ≠ '\n')

/-- The reference written after the keyword of an import line. A quoted name is a file and may be
followed by anything; any other rest of the line is a name, without the blanks around it. Blanks
alone are an empty name, line feeds alone are no name at all. -/
def ofTail? (text : List Char) : Option ImportRef :=
  match quoted? (firstLine text) with
  | some path => some (asset (String.ofList path))
  | none =>
    if text.all (· = '\n') then none
    else some (custom (String.ofList (trim (firstLine text))))

end ImportRef

end ShaderPreprocessor

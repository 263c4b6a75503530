/-
Why a shader cannot be preprocessed, and what is said about it. Nesting of imports that never ends
is kept apart from the errors: no error describes it.
-/
import ShaderPreprocessor.ImportRef

namespace ShaderPreprocessor

/-- The errors of preprocessing. -/
inductive ProcessError where
  /-- An `#endif` closes no block. -/
  | tooManyEndifs
  /-- A block is not closed. -/
  | notEnoughEndifs
  /-- Names are defined for a compiled module. -/
  | unsupportedDefs
  /-- A compiled module imports a shader. -/
  | unsupportedImports
  /-- No shader is stored for a reference. -/
  | unresolved (ref : ImportRef)
  /-- The shader of a reference is written in another language. -/
  | mismatched (ref : ImportRef)
  /-- None of these errors, of which nothing is said. It can only be made by hand: preprocessing
  never fails with it. -/
  | unspecified
  deriving DecidableEq, Repr

namespace ProcessError

/-- What is said about an error. -/
def message : ProcessError → String
  | tooManyEndifs =>
    "Too many '#endif' lines. Each endif should be preceded by an if statement."
  | notEnoughEndifs =>
    "Not enough '#endif' lines. Each if statement should be followed by an endif statement."
  | unsupportedDefs => "This shader's format does not support shader defs."
  | unsupportedImports => "This shader's format does not support imports."
  | unresolved ref => "Unresolved import: " ++ ref.toText ++ "."
  | mismatched ref =>
    "The shader import " ++ ref.toText ++ " does not match the source file type."
  | unspecified => ""

/-- The reference that an error is about. -/
def ref? : ProcessError → Option ImportRef
  | unresolved ref => some ref
  | mismatched ref => some ref
  | _ => none

end ProcessError

/-- Why preprocessing gives no result. -/
inductive Stop where
  /-- Imports are nested without end. -/
  | endless
  /-- An error was met. -/
  | fault (error : ProcessError)
  deriving DecidableEq, Repr

end ShaderPreprocessor

/-
Failures: why an operation has no answer. Shaders that cannot be preprocessed, files that do not
become shaders and handles without a shader are told apart; nesting without end is a failure too,
and the only one of which nothing is said.
-/
import ShaderPreprocessor.Handle
import ShaderPreprocessor.ProcessError
import ShaderPreprocessor.ShaderFile

namespace ShaderPreprocessor

/-- Why an operation has no answer. -/
inductive Failure where
  /-- Imports are nested without end. -/
  | endless
  /-- A shader cannot be preprocessed. -/
  | process (error : ProcessError)
  /-- A file does not become a shader. -/
  | load (error : LoadError)
  /-- No shader is stored under a handle. -/
  | unregistered (h : Handle)
  deriving DecidableEq, Repr

namespace Failure

/-- What is said about a failure. -/
def message : Failure → String
  | endless => ""
  | process error => error.message
  | load error => error.message
  | unregistered h => "Shader " ++ h.toText ++ " is not registered."

/-- Why preprocessing gave no result, among all failures. -/
def ofStop : Stop → Failure
  | .endless => endless
  | .fault error => process error

end Failure

end ShaderPreprocessor

/-
Events: what is worth telling while work goes on. An event is told as a record of a log: how much it
matters, which part of the program tells it, and what it says.
-/
import ShaderPreprocessor.Expansion
import ShaderPreprocessor.ShaderFile

namespace ShaderPreprocessor

/-- How much an event matters. -/
inductive Level where
  | debug
  | info
  | error
  deriving DecidableEq, Repr

/-- The name of a level. -/
def Level.name : Level → String
  | debug => "DEBUG"
  | info => "INFO"
  | error => "ERROR"

/-- What happens while work goes on. -/
inductive Event where
  /-- An import was spliced in. -/
  | inlined (inlining : Inlining)
  /-- A file was loaded. -/
  | loaded (path : String) (h : Handle)
  /-- A file did not become a shader. -/
  | loadFailed (path : Path) (error : LoadError)
  /-- A program was refused. -/
  | programFailed (message : String)
  /-- A compute shader was refused. -/
  | computeFailed (message : String)
  deriving DecidableEq, Repr

namespace Event

/-- How much an event matters. -/
def level : Event → Level
  | inlined _ => .debug
  | loaded _ _ => .info
  | loadFailed _ _ => .error
  | programFailed _ => .error
  | computeFailed _ => .error

/-- The part of the program that tells of an event. -/
def origin : Event → String
  | inlined _ => "aniline.shaders.processor"
  | loaded _ _ => "aniline.assets.server"
  | loadFailed _ _ => "aniline.assets.server"
  | programFailed _ => "aniline.shaders.compiler"
  | computeFailed _ => "aniline.shaders.compiler"

/-- What is told of an event. -/
def message : Event → String
  | inlined i => "Inlining import " ++ i.ref.toText ++ " (" ++ i.handle.toText ++ ")"
  | loaded path h => "Loaded shader " ++ path ++ " as " ++ h.toText
  | loadFailed path error => "Failed to load " ++ path.toText ++ ": " ++ error.message
  | programFailed message => "Shader compilation failed: " ++ message
  | computeFailed message => "Compute shader compilation failed: " ++ message

end Event

end ShaderPreprocessor

/-
Shaders before and after preprocessing. A shader is text of one of two languages or a compiled
module in words of four bytes; text of the second language is made for one stage of the pipeline.

* `Stage`, `Dialect`, `Source`, `Shader`: what goes in;
* `Processed`: what comes out, and `Processed.words`, a compiled module read word by word;
* `Shader.imports`: the references in a shader, read off its text.
-/
import ShaderPreprocessor.Directive
import ShaderPreprocessor.Text.Quoted

namespace ShaderPreprocessor

/-! ### Stages and dialects -/

/-- The stages a GLSL shader can be made for. -/
inductive Stage where
  | vertex
  | fragment
  | compute
  deriving DecidableEq, Repr

namespace Stage

/-- The name of a stage. -/
def name : Stage → String
  | vertex => "vertex"
  | fragment => "fragment"
  | compute => "compute"

/-- The stage of a name. -/
def ofName? (text : String) : Option Stage :=
  [vertex, fragment, compute].find? fun stage => stage.name = text

/-- What is said about a text that names no stage. -/
def unknownMessage (text : String) : String :=
  Text.quoted text ++ " is not a valid ShaderStage"

/-- A stage is found by its name. -/
@[simp] theorem ofName?_name (stage : Stage) : ofName? stage.name = some stage := by
  cases stage <;> decide

end Stage

/-- The languages of shader text. -/
inductive Dialect where
  | wgsl
  | glsl (stage : Stage)
  deriving DecidableEq, Repr

namespace Dialect

/-- Whether two dialects are the same language. Stages do not matter. -/
def sameFamily : Dialect → Dialect → Bool
  | wgsl, wgsl => true
  | glsl _, glsl _ => true
  | _, _ => false

@[simp] theorem sameFamily_refl (d : Dialect) : d.sameFamily d = true := by
  cases d <;> rfl

end Dialect

/-! ### Shaders -/

/-- What a shader is written in. -/
inductive Source where
  /-- Text, which may hold directives. -/
  | text (dialect : Dialect) (content : String)
  /-- A compiled module. -/
  | spirv (data : List UInt8)
  deriving DecidableEq, Repr

/-- The references in a source. A compiled module imports nothing. -/
def Source.imports : Source → List ImportRef
  | text _ content => importRefs content
  | spirv _ => []

/-- A shader, and the reference it can be imported under. -/
structure Shader where
  /-- What it is written in. -/
  source : Source
  /-- The reference it asks to be registered under. -/
  importPath : Option ImportRef := none
  deriving DecidableEq, Repr

/-- The references in a shader, in the order of its lines. -/
def Shader.imports (shader : Shader) : List ImportRef := shader.source.imports

/-- The shader, importable under a reference. -/
def Shader.withImportPath (shader : Shader) (ref : ImportRef) : Shader :=
  { shader with importPath := some ref }

/-! ### Processed shaders -/

/-- A shader whose directives are resolved. -/
inductive Processed where
  /-- Text without directives. -/
  | text (dialect : Dialect) (content : String)
  /-- A compiled module. -/
  | spirv (data : List UInt8)
  deriving DecidableEq, Repr

/-- Why a compiled module cannot be read as words. -/
inductive WordsError where
  /-- The number of bytes is not a multiple of four. -/
  | length (bytes : Nat)
  /-- The first word is not the magic number, or is missing. -/
  | magic
  deriving DecidableEq, Repr

/-- What is said about a module that cannot be read as words. -/
def WordsError.message : WordsError → String
  | length bytes => "SPIR-V data length must be a multiple of 4, got " ++ toString bytes
  | magic => "SPIR-V data does not start with the magic number"

namespace Processed

/-- The word that starts every compiled module. -/
def magicNumber : Nat := 0x07230203

/-- The text of a processed WGSL shader. -/
def wgslText? : Processed → Option String
  | text .wgsl content => some content
  | _ => none

/-- The text of a processed GLSL shader. -/
def glslText? : Processed → Option String
  | text (.glsl _) content => some content
  | _ => none

/-- Four bytes as a number, the first byte counting least. -/
def word (a b c d : UInt8) : Nat :=
  a.toNat + 256 * (b.toNat + 256 * (c.toNat + 256 * d.toNat))

/-- The words of a run of bytes; bytes left over at the end are not read. This stands for what the
array library makes of a buffer of little-endian numbers of 32 bits, which is taken as given. -/
def wordsOf : List UInt8 → List Nat
  | a :: b :: c :: d :: data => word a b c d :: wordsOf data
  | _ => []

/-- The words of a compiled module. -/
def words (data : List UInt8) : Except WordsError (List Nat) :=
  if data.length % 4 ≠ 0 then .error (.length data.length)
  else if (wordsOf data).head? = some magicNumber then .ok (wordsOf data)
  else .error .magic

end Processed

end ShaderPreprocessor
